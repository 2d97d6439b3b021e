/-
# SealedTransfer.Proofs.Envelope.Options — what options make of an envelope

Options draw and check their ciphers without looking at the envelope. What they are applied to gets
the ciphers and, where they are set, the name and the timestamp; its payload stays as it is.
-/
import SealedTransfer.Envelope.Options

namespace SealedTransfer

/-- A timestamp is never empty. -/
theorem Time.Instant.text_ne_empty (instant : Time.Instant) : instant.text ≠ "" := by
  rw [text, ne_eq, ← String.toList_eq_nil_iff, String.toList_ofList]
  simp [Time.textWith]

namespace Options

/-- Whether the options ask for a payload cipher whose key is to be drawn. -/
def DrawsKey (options : Options) : Prop := ∃ secret, options.cipher = some (.keys [] secret)

/-- A message keeps a name and a timestamp that are not set. -/
theorem applyToMessage_of_unset {options : Options} {message : Message} (unnamed : options.id = .none)
    (untimed : options.timestamp = .none) : options.applyToMessage message = message := by
  rw [applyToMessage, unnamed, untimed]
  rfl

/-- A name is not lost under options that do not set an empty one. -/
theorem getD_id_ne_empty {options : Options} (named : options.id ≠ some "") {id : String}
    (given : id ≠ "") : options.id.getD id ≠ "" := by
  cases set : options.id with
  | none => exact given
  | some other =>
    rintro rfl
    exact named set

/-- A timestamp is not lost when options are applied. -/
theorem timestamp_applyToMessage {options : Options} {message : Message}
    (timestamp : message.timestamp ≠ "") : (options.applyToMessage message).timestamp ≠ "" := by
  rw [applyToMessage]
  cases options.timestamp with
  | none => exact timestamp
  | some instant => exact instant.text_ne_empty

/-- Options can be applied exactly if their ciphers can be had. -/
theorem runFrom_apply_eq_ok {options : Options} {envelope after : Envelope}
    {entropy rest : Entropy} :
    (options.apply envelope).runFrom entropy = (.ok after, rest) ↔
      ∃ cipher sealCipher,
        options.ciphers.runFrom entropy = (.ok (cipher, sealCipher), rest) ∧
          after = { envelope with
            message := options.applyToMessage envelope.message
            cipher := cipher.or envelope.cipher
            sealCipher := sealCipher.or envelope.sealCipher } := by
  simp only [apply, Drawing.runFrom_bind_eq_ok, Drawing.runFrom_pure_eq_ok]
  constructor
  · rintro ⟨⟨cipher, sealCipher⟩, _, drawn, rfl, rfl⟩
    exact ⟨cipher, sealCipher, drawn, rfl⟩
  · rintro ⟨cipher, sealCipher, drawn, rfl⟩
    exact ⟨(cipher, sealCipher), rest, drawn, rfl, rfl⟩

/-- Options cannot be applied exactly if their ciphers cannot be had. -/
theorem runFrom_apply_eq_error {options : Options} {envelope : Envelope} {entropy rest : Entropy}
    {fault : Fault} :
    (options.apply envelope).runFrom entropy = (.error fault, rest) ↔
      options.ciphers.runFrom entropy = (.error fault, rest) := by
  rw [apply, Drawing.runFrom_bind_eq_error]
  constructor
  · rintro (failed | ⟨_, _, -, made⟩)
    · exact failed
    · cases made
  · exact .inl

/-- The cipher of secrets is the chosen one. -/
theorem sealCipher_of_ciphers {options : Options} {cipher : Option PayloadCipher}
    {sealCipher : Option SealCipher} {entropy rest : Entropy}
    (h : options.ciphers.runFrom entropy = (.ok (cipher, sealCipher), rest)) :
    options.sealCipher.mapM SealChoice.cipher = .ok sealCipher := by
  simp only [ciphers, Drawing.runFrom_bind_eq_ok, Drawing.runFrom_ofExcept_eq_ok,
    Drawing.runFrom_pure_eq_ok] at h
  obtain ⟨_, _, _, _, _, ⟨chosen, _⟩, same, _⟩ := h
  rw [chosen, (Prod.mk.inj same).2]

/-- Options with nothing but a cipher of secrets draw nothing. -/
theorem runFrom_ciphers_of_sealCipher {choice : SealChoice} {sealCipher : SealCipher}
    (chosen : choice.cipher = .ok sealCipher) (entropy : Entropy) :
    (Options.ciphers ⟨.none, .none, .none, some choice⟩).runFrom entropy
      = (.ok (.none, some sealCipher), entropy) := by
  have mapped : (some choice).mapM SealChoice.cipher = .ok (some sealCipher) := by
    rw [Option.mapM_some, chosen]
    rfl
  simp only [ciphers, mapped]
  rfl

end Options

namespace Envelope

/-- An envelope around a message that keeps its name and its timestamp. -/
theorem runFrom_wrap_eq_ok {message : Message} {options : Options} {envelope : Envelope}
    {entropy rest : Entropy} (unnamed : options.id = none) (untimed : options.timestamp = none) :
    (wrap message options).runFrom entropy = (.ok envelope, rest) ↔
      ∃ cipher sealCipher,
        options.ciphers.runFrom entropy = (.ok (cipher, sealCipher), rest) ∧
          envelope = ⟨message, none, cipher, sealCipher⟩ := by
  have same : options.applyToMessage message = message :=
    Options.applyToMessage_of_unset unnamed untimed
  simp only [wrap, Options.runFrom_apply_eq_ok, ofMessage, same, Option.or_none]

/-- What a new envelope is like. -/
theorem of_create {occasion : Occasion} {payload : Payload} {options : Options}
    {envelope : Envelope} {entropy rest : Entropy}
    (h : (create occasion payload options).runFrom entropy = (.ok envelope, rest)) :
    envelope.payload = some payload ∧ envelope.message.error = none ∧
      envelope.message.timestamp ≠ "" ∧
      options.sealCipher.mapM SealChoice.cipher = .ok envelope.sealCipher := by
  obtain ⟨cipher, sealCipher, drawn, rfl⟩ := Options.runFrom_apply_eq_ok.mp h
  refine ⟨rfl, rfl, ?_, ?_⟩
  · exact Options.timestamp_applyToMessage occasion.now.text_ne_empty
  · simp only [Option.or_none]
    exact Options.sealCipher_of_ciphers drawn

end Envelope

end SealedTransfer
