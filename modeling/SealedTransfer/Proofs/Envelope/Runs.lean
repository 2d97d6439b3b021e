/-
# SealedTransfer.Proofs.Envelope.Runs — no payload is lost in a run

Whatever is asked of an envelope, in whatever order, and whichever of it fails: its payload stays with
it. Between two steps the payload is readable, or the message holds it under the secrets that stand in
the message, or under secrets that are wrapped for the envelope's cipher of secrets. Each transition
leads from one of the three cases into another, and a step that fails stays in its case.
-/
import SealedTransfer.Proofs.Envelope.Options
import SealedTransfer.Proofs.Envelope.Transitions

namespace SealedTransfer.Envelope

/-! ## What stays the same -/

/-- Two envelopes with the same name, timestamp, rejection and cipher of secrets. -/
structure SameTransfer (envelope other : Envelope) : Prop where
  id : other.message.id = envelope.message.id
  timestamp : other.message.timestamp = envelope.message.timestamp
  error : other.message.error = envelope.message.error
  sealCipher : other.sealCipher = envelope.sealCipher

namespace SameTransfer

theorem refl (envelope : Envelope) : SameTransfer envelope envelope := ⟨rfl, rfl, rfl, rfl⟩

theorem trans {envelope middle other : Envelope} (h : SameTransfer envelope middle)
    (h' : SameTransfer middle other) : SameTransfer envelope other :=
  ⟨h'.id.trans h.id, h'.timestamp.trans h.timestamp, h'.error.trans h.error,
    h'.sealCipher.trans h.sealCipher⟩

end SameTransfer

theorem Advances.sameTransfer {transition : Transition} {envelope after : Envelope}
    (h : Advances transition envelope after) : SameTransfer envelope after := by
  cases h <;> exact ⟨rfl, rfl, rfl, rfl⟩

/-- A step stays within the transfer, whether it succeeds or fails. -/
theorem sameTransfer_take (envelope : Envelope) (transition : Transition) (entropy : Entropy) :
    SameTransfer envelope (envelope.take transition entropy).envelope := by
  cases outcome : (envelope.take transition entropy).outcome with
  | ok _ => exact (advances_of_take outcome).sameTransfer
  | error failure =>
    rcases envelope_take_of_error outcome with same | ⟨cipher, -, equipped⟩
    · rw [same]
      exact .refl envelope
    · rw [equipped]
      exact ⟨rfl, rfl, rfl, rfl⟩

/-! ## Where the payload is -/

/-- An envelope that keeps a payload. -/
inductive Keeps (payload : Payload) (envelope : Envelope) : Prop
  | clear (readable : envelope.payload = some payload) (id : envelope.message.id ≠ "")
      (timestamp : envelope.message.timestamp ≠ "")
  | unsealed (unsealed : envelope.Protected false)
      (held : envelope.message.Holds envelope.message.encryptionKey envelope.message.hmacSecret
        payload)
  | sealed {cipher : SealCipher} {key secret : Bytes} (sealed : envelope.Protected true)
      (chosen : envelope.sealCipher = some cipher)
      (wrappedKey : SealCipher.IsWrapped cipher.publicHalf key envelope.message.encryptionKey)
      (wrappedSecret : SealCipher.IsWrapped cipher.publicHalf secret envelope.message.hmacSecret)
      (hasKey : key ≠ []) (hasSecret : secret ≠ []) (held : envelope.message.Holds key secret payload)

/-- An envelope whose own private key, if it has one, inverts. -/
def UnwrapsTruly (envelope : Envelope) : Prop :=
  ∀ key, envelope.sealCipher = some (.owner key) → key.Inverts

/-- What a cipher unwraps is what was wrapped for it. -/
theorem eq_of_decrypt {cipher : SealCipher} {secret wrapped unwrapped : Bytes}
    (truly : ∀ key, cipher = .owner key → key.Inverts)
    (h : SealCipher.IsWrapped cipher.publicHalf secret wrapped)
    (decrypted : cipher.decrypt wrapped = .ok unwrapped) : unwrapped = secret := by
  cases cipher with
  | recipient key => cases decrypted
  | owner key =>
    rw [SealCipher.decrypt_of_isWrapped (truly key rfl) h] at decrypted
    exact (Except.ok.inj decrypted).symm

section Steps

variable {payload : Payload} {envelope after : Envelope}

/-! ### The three cases -/

/-- The payload that is readable is the one that is kept. -/
theorem Keeps.of_clear {readable : Payload} (h : Keeps payload envelope)
    (clear : envelope.payload = some readable) :
    readable = payload ∧ envelope.message.id ≠ "" ∧ envelope.message.timestamp ≠ "" := by
  cases h with
  | clear readable' id timestamp => exact ⟨Option.some.inj (clear.symm.trans readable'), id, timestamp⟩
  | unsealed unsealed _ => cases unsealed.payload.symm.trans clear
  | sealed sealed _ _ _ _ _ _ => cases sealed.payload.symm.trans clear

/-- The payload that is kept unsealed is held by the secrets in the clear. -/
theorem Keeps.of_unsealed (h : Keeps payload envelope) (unsealed : envelope.Protected false) :
    envelope.message.Holds envelope.message.encryptionKey envelope.message.hmacSecret payload := by
  cases h with
  | clear readable _ _ => cases unsealed.payload.symm.trans readable
  | unsealed _ held => exact held
  | sealed sealed _ _ _ _ _ _ => cases sealed.isSealed.symm.trans unsealed.isSealed

/-- The payload that is kept sealed is held by secrets that are wrapped for the envelope's cipher. -/
theorem Keeps.of_sealed {cipher : SealCipher} (h : Keeps payload envelope)
    (sealed : envelope.Protected true) (chosen : envelope.sealCipher = some cipher) :
    ∃ key secret,
      SealCipher.IsWrapped cipher.publicHalf key envelope.message.encryptionKey ∧
      SealCipher.IsWrapped cipher.publicHalf secret envelope.message.hmacSecret ∧
      key ≠ [] ∧ secret ≠ [] ∧ envelope.message.Holds key secret payload := by
  cases h with
  | clear readable _ _ => cases sealed.payload.symm.trans readable
  | unsealed unsealed _ => cases sealed.isSealed.symm.trans unsealed.isSealed
  | sealed _ chosen' wrappedKey wrappedSecret hasKey hasSecret held =>
    cases chosen.symm.trans chosen'
    exact ⟨_, _, wrappedKey, wrappedSecret, hasKey, hasSecret, held⟩

/-! ### Steps -/

/-- What is encrypted is the payload that was readable. -/
theorem keeps_of_encryption (short : payload.encode.length < 2 ^ 64) (h : Keeps payload envelope)
    (step : Advances .encryption envelope after) : Keeps payload after := by
  cases step with
  | @encryption _ _ cipher _ clear _ encrypted =>
    obtain ⟨rfl, id, timestamp⟩ := h.of_clear clear
    have complete := complete_protectedMessage cipher id timestamp encrypted.ne_nil
    exact .unsealed ⟨rfl, complete, rfl⟩ (holds_protectedMessage _ encrypted short)

/-- The secrets that are wrapped are those that the payload is held by. -/
theorem keeps_of_sealing (h : Keeps payload envelope) (step : Advances .sealing envelope after) :
    Keeps payload after := by
  have sealed := step.protected_of_sealing
  cases step with
  | sealing unsealed chosen wrappedKey wrappedSecret =>
    have held := h.of_unsealed unsealed
    exact .sealed sealed chosen wrappedKey wrappedSecret unsealed.complete.encryptionKey
      unsealed.complete.hmacSecret (held.withSecrets _ _ true _)

/-- The secrets that are unwrapped are those that the payload is held by. -/
theorem keeps_of_unsealing (truly : envelope.UnwrapsTruly) (h : Keeps payload envelope)
    (step : Advances .unsealing envelope after) : Keeps payload after := by
  cases step with
  | @unsealing _ cipher _ _ sealed _ chosen unwrappedKey unwrappedSecret =>
    obtain ⟨key, secret, wrappedKey, wrappedSecret, hasKey, hasSecret, held⟩ :=
      h.of_sealed sealed chosen
    have own : ∀ key, cipher = .owner key → key.Inverts := by
      rintro key rfl
      exact truly key chosen
    -- a cipher unwraps nothing but what was wrapped, so the message gets its own secrets back
    obtain rfl := eq_of_decrypt own wrappedKey unwrappedKey
    obtain rfl := eq_of_decrypt own wrappedSecret unwrappedSecret
    exact .unsealed ⟨sealed.payload, sealed.complete.withSecrets hasKey hasSecret _ _, rfl⟩
      (held.withSecrets _ _ false "")

/-- The payload that is decrypted is the one that is held. -/
theorem keeps_of_decryption (h : Keeps payload envelope)
    (step : Advances .decryption envelope after) : Keeps payload after := by
  cases step with
  | decryption unsealed held =>
    obtain rfl := held.payload_unique (h.of_unsealed unsealed)
    exact .clear rfl unsealed.complete.id unsealed.complete.timestamp

/-- A payload is kept whatever cipher of payloads stands beside it. -/
theorem Keeps.withCipher (h : Keeps payload envelope) (cipher : Option PayloadCipher) :
    Keeps payload { envelope with cipher := cipher } := by
  cases h with
  | clear readable id timestamp => exact .clear readable id timestamp
  | unsealed unsealed held =>
    exact .unsealed ⟨unsealed.payload, unsealed.complete, unsealed.isSealed⟩ held
  | sealed sealed chosen wrappedKey wrappedSecret hasKey hasSecret held =>
    exact .sealed ⟨sealed.payload, sealed.complete, sealed.isSealed⟩ chosen wrappedKey wrappedSecret
      hasKey hasSecret held

/-- **Every step keeps the payload**, whether it succeeds or fails. -/
theorem keeps_take (short : payload.encode.length < 2 ^ 64) (truly : envelope.UnwrapsTruly)
    (h : Keeps payload envelope) (transition : Transition) (entropy : Entropy) :
    Keeps payload (envelope.take transition entropy).envelope := by
  cases outcome : (envelope.take transition entropy).outcome with
  | ok _ =>
    have step := advances_of_take outcome
    cases transition with
    | encryption => exact keeps_of_encryption short h step
    | sealing => exact keeps_of_sealing h step
    | unsealing => exact keeps_of_unsealing truly h step
    | decryption => exact keeps_of_decryption h step
  | error failure =>
    -- all that a failure can leave behind is a cipher of payloads
    rcases envelope_take_of_error outcome with same | ⟨cipher, -, equipped⟩
    · rw [same]
      exact h
    · rw [equipped]
      exact h.withCipher _

end Steps

/-! ## Runs -/

/-- The envelope after steps in order, each on a random source of its own. -/
def after (envelope : Envelope) (steps : List (Transition × Entropy)) : Envelope :=
  steps.foldl (fun current step => (current.take step.1 step.2).envelope) envelope

/-- A run stays within the transfer. -/
theorem sameTransfer_after (envelope : Envelope) (steps : List (Transition × Entropy)) :
    SameTransfer envelope (envelope.after steps) := by
  induction steps generalizing envelope with
  | nil => exact .refl envelope
  | cons step steps ih =>
    exact (sameTransfer_take envelope step.1 step.2).trans (ih _)

/-- A run keeps the payload. -/
theorem keeps_after {payload : Payload} {envelope : Envelope}
    (short : payload.encode.length < 2 ^ 64) (truly : envelope.UnwrapsTruly)
    (h : Keeps payload envelope) (steps : List (Transition × Entropy)) :
    Keeps payload (envelope.after steps) := by
  induction steps generalizing envelope with
  | nil => exact h
  | cons step steps ih =>
    refine ih ?_ (keeps_take short truly h step.1 step.2)
    -- the step has left the cipher of secrets alone, so it still unwraps truly
    intro key chosen
    exact truly key ((sameTransfer_take envelope step.1 step.2).sealCipher ▸ chosen)

/-! ## Ways to the payload -/

/-- An envelope whose decryption succeeds with a payload. -/
def Yields (envelope : Envelope) (payload : Payload) : Prop :=
  ∀ entropy, (envelope.decrypt entropy).outcome = .ok () ∧
    (envelope.decrypt entropy).envelope.payload = some payload

/-- An envelope that a payload can be had from: it is readable; or decryption gives it; or unsealing
does and then decrypting, with the private half of the cipher that the secrets are wrapped with. -/
inductive Carries (payload : Payload) (envelope : Envelope) : Prop
  | clear (readable : envelope.payload = some payload)
  | unsealed (state : envelope.state.payload = .unsealed) (yields : envelope.Yields payload)
  | sealed {cipher : SealCipher} (state : envelope.state.payload = .sealed)
      (chosen : envelope.sealCipher = some cipher)
      (yields : ∀ key : Rsa.PrivateKey, key.publicHalf = cipher.publicHalf → key.Inverts →
        ∀ entropy, ∃ unsealed,
          { envelope with sealCipher := some (.owner key) }.unsealSecrets entropy
            = ⟨.ok (), unsealed, entropy⟩ ∧ unsealed.Yields payload)

/-- Where a run may start: a new envelope that has a name, or one that was just decrypted. -/
inductive Starts (payload : Payload) : Envelope → Prop
  | created {occasion : Occasion} {options : Options} {envelope : Envelope} {entropy rest : Entropy}
      (made : (create occasion payload options).runFrom entropy = (.ok envelope, rest))
      (named : envelope.message.id ≠ "") : Starts payload envelope
  | decrypted {envelope : Envelope} {entropy : Entropy}
      (succeeded : (envelope.decrypt entropy).outcome = .ok ())
      (found : (envelope.decrypt entropy).envelope.payload = some payload) :
      Starts payload (envelope.decrypt entropy).envelope

theorem Starts.keeps {payload : Payload} {envelope : Envelope} (h : Starts payload envelope) :
    Keeps payload envelope := by
  cases h with
  | created made named =>
    obtain ⟨readable, -, timestamp, -⟩ := of_create made
    exact .clear readable named timestamp
  | decrypted succeeded found =>
    have step : Advances .decryption _ (decrypt _ _).envelope := advances_of_take succeeded
    generalize (decrypt _ _).envelope = after at step found ⊢
    cases step with
    | decryption unsealed held => exact .clear found unsealed.complete.id unsealed.complete.timestamp

/-- An unsealed envelope yields the payload that its message holds. -/
theorem Protected.yields {payload : Payload} {envelope : Envelope} (unsealed : envelope.Protected false)
    (held : envelope.message.Holds envelope.message.encryptionKey envelope.message.hmacSecret payload) :
    envelope.Yields payload := by
  intro entropy
  have ran := runFrom_decrypted_eq_ok.mpr ⟨.decryption unsealed held, Eq.refl entropy⟩
  rw [decrypt_eq, attempt_of_ok ran]
  exact ⟨rfl, rfl⟩

/-- What is kept can be had. -/
theorem Keeps.carries {payload : Payload} {envelope : Envelope} (h : Keeps payload envelope) :
    Carries payload envelope := by
  cases h with
  | clear readable _ _ => exact .clear readable
  | unsealed unsealed held =>
    exact .unsealed (state_payload_eq_unsealed.mpr unsealed) (unsealed.yields held)
  | @sealed cipher key secret sealed chosen wrappedKey wrappedSecret hasKey hasSecret held =>
    refine .sealed (state_payload_eq_sealed.mpr sealed) chosen ?_
    -- the owner stands in for the envelope's own cipher, which may be the recipient's public half
    intro owner same inverts entropy
    rw [← same] at wrappedKey wrappedSecret
    have step : Advances .unsealing { envelope with sealCipher := some (.owner owner) } _ :=
      .unsealing ⟨sealed.payload, sealed.complete, sealed.isSealed⟩ held.names.supported rfl
      (SealCipher.decrypt_of_isWrapped inverts wrappedKey)
      (SealCipher.decrypt_of_isWrapped inverts wrappedSecret)
    refine ⟨_, unsealSecrets_of_advances step entropy, ?_⟩
    exact Protected.yields ⟨sealed.payload, sealed.complete.withSecrets hasKey hasSecret _ _, rfl⟩
      (held.withSecrets key secret false "")

/-- **No payload is lost or changed in a run.** After any steps, in any order, whichever of them fail,
the envelope still carries its payload, and its name, timestamp and rejection are the same. -/
theorem carries_after {payload : Payload} {envelope : Envelope}
    (short : payload.encode.length < 2 ^ 64) (truly : envelope.UnwrapsTruly)
    (start : Starts payload envelope) (steps : List (Transition × Entropy)) :
    Carries payload (envelope.after steps) ∧
      (envelope.after steps).message.id = envelope.message.id ∧
      (envelope.after steps).message.timestamp = envelope.message.timestamp ∧
      (envelope.after steps).message.error = envelope.message.error := by
  have same := sameTransfer_after envelope steps
  exact ⟨(keeps_after short truly start.keeps steps).carries, same.id, same.timestamp, same.error⟩

/-- A new envelope with a name and the cipher of a key's owner is a start. -/
theorem starts_of_owner {name : String} (named : name ≠ "") (now : Time.Instant) (payload : Payload)
    (key : Rsa.PrivateKey) :
    Starts payload ⟨{ Message.empty with id := name, timestamp := now.text }, some payload, none,
      some (.owner key)⟩ := by
  have made : (create ⟨⟨0⟩, now⟩ payload ⟨some name, none, none, some (.unsealing (.rsa key))⟩).runFrom
      ⟨fun _ => 0, 0, none⟩ = (.ok ⟨{ Message.empty with id := name, timestamp := now.text },
        some payload, none, some (.owner key)⟩, ⟨fun _ => 0, 0, none⟩) := rfl
  exact .created made named

/-- A new envelope on its way to the owner of a key and back, with a source that runs dry in between. -/
theorem carries_after_round_trip :
    Carries .empty (Envelope.after
      ⟨{ Message.empty with id := "transfer", timestamp := Time.Instant.epoch.text }, some .empty,
        none, some (.owner .mersenne)⟩
      [(.encryption, ⟨fun _ => 1, 0, none⟩), (.sealing, ⟨fun _ => 2, 0, some 70⟩),
        (.sealing, ⟨fun _ => 3, 0, none⟩), (.unsealing, ⟨fun _ => 0, 0, some 0⟩),
        (.decryption, ⟨fun _ => 0, 0, some 0⟩)]) := by
  have start := starts_of_owner (show "transfer" ≠ "" by decide) .epoch .empty .mersenne
  have short : Payload.empty.encode.length < 2 ^ 64 := by decide
  refine (carries_after short ?_ start _).1
  intro key chosen
  obtain rfl := SealCipher.owner.inj (Option.some.inj chosen)
  exact Rsa.PrivateKey.inverts_mersenne

end SealedTransfer.Envelope
