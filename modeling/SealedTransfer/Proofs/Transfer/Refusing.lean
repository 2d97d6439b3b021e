/-
# SealedTransfer.Proofs.Transfer.Refusing — a rejection arrives as it was sent

A refusal is a message with a name and a rejection and nothing else. It can be made for every rejection
that says something, and only the options can be in the way. Whoever opens it gets that rejection and no
other answer: there is no payload to try, and nothing about the message is corrupted. The same holds once
it has gone through its text. A rejection that says nothing is never sent, and no options are looked at
for it.
-/
import SealedTransfer.Envelope.Reply
import SealedTransfer.Proofs.Message.Json
import SealedTransfer.Proofs.Transfer.Opening

namespace SealedTransfer

/-! ## Messages with nothing but a rejection -/

namespace Message

/-- A message that carries a rejection and nothing else, and is recognized as one. -/
structure Refuses (message : Message) (rejection : Rejection) : Prop where
  id : message.id ≠ ""
  payload : message.payload = []
  error : message.error = some rejection
  validate : message.validate = .ok ()
  status : message.status = .error
  check : message.check = (some rejection, true)

variable {message : Message} {rejection : Rejection}

/-- A rejection that says something is the one that a message carries. -/
theorem rejection?_of_error (error : message.error = some rejection)
    (spoken : rejection.isZero = false) : message.rejection? = some rejection := by
  simp [rejection?, error, spoken]

/-- A name and a rejection that says something are all that it takes. -/
theorem refuses_of_error (id : message.id ≠ "") (payload : message.payload = [])
    (error : message.error = some rejection) (spoken : rejection.isZero = false) :
    message.Refuses rejection := by
  have carried := rejection?_of_error error spoken
  have carries : message.hasError = true := by
    rw [hasError, carried]
    rfl
  have only : message.status = .error := status_eq_error.mpr ⟨id, payload, carries⟩
  refine ⟨id, payload, error, ?_, only, ?_⟩
  · rw [validate, if_neg id, if_pos payload, if_pos carries]
  · rw [check, carried, only]
    rfl

end Message

namespace Transfer

/-- A message with nothing but a rejection is opened to that rejection, under every name that it is
given. -/
theorem openPayload_of_refuses {message : Message} {rejection : Rejection}
    (refuses : message.Refuses rejection) (spoken : rejection.isZero = false) {options : Options}
    (named : options.id ≠ some "") {cipher : Option PayloadCipher} {sealCipher : Option SealCipher}
    {entropy rest : Entropy}
    (applied : options.ciphers.runFrom entropy = (.ok (cipher, sealCipher), rest)) :
    (openPayload message options).runFrom entropy = (.error (.rejected rejection), rest) := by
  have id : options.id.getD message.id ≠ "" := options.getD_id_ne_empty named refuses.id
  have refuses' : (options.applyToMessage message).Refuses rejection :=
    Message.refuses_of_error id refuses.payload refuses.error spoken
  have only : Envelope.state ⟨options.applyToMessage message, none, cipher, sealCipher⟩ = .error :=
    refuses'.status
  have surfaced := surfaceRejection_of_error only (congrArg Prod.fst refuses'.check)
  rw [runFrom_openPayload_of_applied applied, openEnvelope, surfaced,
    Drawing.runFrom_bind_of_error (Drawing.runFrom_ofExcept _ _)]

end Transfer

/-! ## Refusals -/

namespace Message

section Reply

variable (occasion : Occasion) (id : String) {rejection : Rejection} {options : Options}
  {entropy rest : Entropy}

/-- A rejection that says nothing is not sent, whatever is set. -/
theorem runFrom_reply_of_zero (zero : rejection.isZero = true) (options : Options)
    (entropy : Entropy) :
    (reply occasion id rejection options).runFrom entropy = (.error .emptyRejection, entropy) := by
  rw [reply, if_pos zero]
  rfl

/-- A refusal is not made if the options cannot be applied. -/
theorem runFrom_reply_of_error (spoken : rejection.isZero = false) {fault : Fault}
    (failed : options.ciphers.runFrom entropy = (.error fault, rest)) :
    (reply occasion id rejection options).runFrom entropy = (.error fault, rest) := by
  have unwrapped : (Envelope.wrap (ofRejection id occasion.now rejection) options).runFrom entropy
      = (.error fault, rest) :=
    Options.runFrom_apply_eq_error.mpr failed
  rw [reply, if_neg (by simp [spoken])]
  exact Drawing.runFrom_bind_of_error unwrapped

/-- The name of a refusal: the one that is set, or else that of the transfer; a fresh one, if that is
none. -/
def refusalId (options : Options) : String :=
  if options.id.getD id = "" then occasion.freshId.text else options.id.getD id

/-- A refusal is made if the options can be applied. -/
theorem runFrom_reply_of_ok (spoken : rejection.isZero = false) {cipher : Option PayloadCipher}
    {sealCipher : Option SealCipher}
    (applied : options.ciphers.runFrom entropy = (.ok (cipher, sealCipher), rest)) :
    ∃ message, (reply occasion id rejection options).runFrom entropy = (.ok message, rest) ∧
      message.id = refusalId occasion id options ∧ message.Refuses rejection := by
  -- the message in the envelope, before it is named
  let made := options.applyToMessage (ofRejection id occasion.now rejection)
  have wrapped : (Envelope.wrap (ofRejection id occasion.now rejection) options).runFrom entropy
      = (.ok ⟨made, none, cipher, sealCipher⟩, rest) :=
    Options.runFrom_apply_eq_ok.mpr ⟨cipher, sealCipher, applied, by simp [Envelope.ofMessage, made]⟩
  let message := made.withIdUnlessNamed occasion.freshId.text
  have name : message.id = refusalId occasion id options := by
    show (made.withIdUnlessNamed occasion.freshId.text).id = _
    rw [withIdUnlessNamed, refusalId]
    show (if options.id.getD id = "" then _ else made : Message).id = _
    split <;> rfl
  have named : message.id ≠ "" := by
    rw [name, refusalId]
    split
    · exact occasion.freshId.text_ne_empty
    · assumption
  have content : message.payload = [] ∧ message.error = some rejection := by
    show (made.withIdUnlessNamed _).payload = [] ∧ (made.withIdUnlessNamed _).error = _
    rw [withIdUnlessNamed]
    split <;> exact ⟨rfl, rfl⟩
  have refuses := refuses_of_error named content.1 content.2 spoken
  refine ⟨message, ?_, name, refuses⟩
  rw [reply, if_neg (by simp [spoken])]
  refine (Drawing.runFrom_bind_of_ok wrapped).trans ?_
  refine (Drawing.runFrom_bind_of_ok
    (Drawing.runFrom_ofExcept_eq_ok.mpr ⟨refuses.validate, rfl⟩)).trans ?_
  rfl

end Reply

end Message

namespace Transfer

/-- A refusal: the answer to an envelope, or to none. -/
def refuse (answered : Option Envelope) (occasion : Occasion) (rejection : Rejection)
    (options : Options) : Drawing Fault Message :=
  match answered with
  | some envelope => envelope.reject occasion rejection options
  | none => reject occasion rejection options

/-- The name of the transfer that is answered, if there is one. -/
def answeredId (answered : Option Envelope) : String :=
  (answered.map fun envelope => envelope.message.id).getD ""

/-- Both answers are replies. -/
theorem refuse_eq_reply (answered : Option Envelope) (occasion : Occasion) (rejection : Rejection)
    (options : Options) :
    refuse answered occasion rejection options
      = Message.reply occasion (answeredId answered) rejection options := by
  cases answered <;> rfl

/-- **A rejection arrives as it was sent.** For a rejection that says something, an answer to an envelope
or to none fails only with the options, whatever they are applied to. Otherwise it is a message with
that rejection and nothing else, named as the options say, or else as the envelope, or else anew; its
text gives it back, and opening it ends in that rejection for all options that apply and do not take its
name away. A rejection that says nothing is not sent, and the options are not looked at. -/
theorem openPayload_of_refused (answered : Option Envelope) (occasion : Occasion)
    (rejection : Rejection) (options : Options) (entropy : Entropy) :
    (rejection.isZero = true →
      (refuse answered occasion rejection options).runFrom entropy
        = (.error .emptyRejection, entropy)) ∧
    (rejection.isZero = false → ∀ other : Envelope,
      (∀ fault rest, (options.apply other).runFrom entropy = (.error fault, rest) →
        (refuse answered occasion rejection options).runFrom entropy = (.error fault, rest)) ∧
      (∀ applied rest, (options.apply other).runFrom entropy = (.ok applied, rest) →
        ∃ message, (refuse answered occasion rejection options).runFrom entropy = (.ok message, rest) ∧
          message.id = Message.refusalId occasion (answeredId answered) options ∧
          message.Refuses rejection ∧
          Message.ofText? message.toText = some message ∧
          ∀ (opening : Options) (envelope : Envelope) (start final : Entropy),
            opening.id ≠ some "" →
            (Envelope.wrap message opening).runFrom start = (.ok envelope, final) →
            (openPayload message opening).runFrom start = (.error (.rejected rejection), final))) := by
  rw [refuse_eq_reply]
  constructor
  · intro zero
    exact Message.runFrom_reply_of_zero occasion _ zero options entropy
  · intro spoken other
    constructor
    · intro fault rest failed
      exact Message.runFrom_reply_of_error occasion _ spoken (Options.runFrom_apply_eq_error.mp failed)
    · intro applied rest succeeded
      obtain ⟨cipher, sealCipher, drawn, -⟩ := Options.runFrom_apply_eq_ok.mp succeeded
      obtain ⟨message, made, name, refuses⟩ :=
        Message.runFrom_reply_of_ok occasion (answeredId answered) spoken drawn
      refine ⟨message, made, name, refuses, message.ofText?_toText, ?_⟩
      intro opening envelope start final named wrapped
      obtain ⟨cipher, sealCipher, drawn, -⟩ := Options.runFrom_apply_eq_ok.mp wrapped
      exact openPayload_of_refuses refuses spoken named drawn

/-- A rejection that asks for another attempt and has details, sent in answer to none. -/
theorem openPayload_of_sample_refusal :
    ∃ message, (reject ⟨⟨0⟩, .epoch⟩ ⟨.rejected, "not now", true, some ⟨"type", [1]⟩⟩ .none).runFrom
        ⟨fun _ => 0, 0, some 0⟩ = (.ok message, ⟨fun _ => 0, 0, some 0⟩) ∧
      Message.ofText? message.toText = some message ∧
      (openPayload message .none).runFrom ⟨fun _ => 0, 0, some 0⟩
        = (.error (.rejected ⟨.rejected, "not now", true, some ⟨"type", [1]⟩⟩),
          ⟨fun _ => 0, 0, some 0⟩) := by
  obtain ⟨-, sent⟩ := openPayload_of_refused none ⟨⟨0⟩, .epoch⟩
    ⟨.rejected, "not now", true, some ⟨"type", [1]⟩⟩ .none ⟨fun _ => 0, 0, some 0⟩
  obtain ⟨message, made, -, -, text, opens⟩ :=
    (sent (by decide) (Envelope.ofMessage .empty)).2 _ _ rfl
  exact ⟨message, made, text, opens .none _ _ _ nofun rfl⟩

end Transfer

end SealedTransfer
