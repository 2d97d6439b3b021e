/-
# SealedTransfer.Proofs.Envelope.Settings — what comes out of settings

When settings are applied, each slot of the envelope gets what the last setting about it makes, or keeps what
it has: that is all that is made, and all that can fail or be drawn. An unusable key that was replaced fails
nothing, and an empty key that was replaced is not drawn.
-/
import SealedTransfer.Proofs.Cipher.Payload
import SealedTransfer.Proofs.Envelope.Options
import SealedTransfer.Proofs.Envelope.Slots

namespace SealedTransfer

/-! ## What a setting makes -/

/-- What a setting makes of a slot that it is about: what stands there in an envelope that was made, and, in
the slot of the payload's cipher, the source before and after the octets that were drawn for it. -/
def Setting.Makes (setting : Setting) (slot : Slot) (made : Envelope) (entropy rest : Entropy) : Prop :=
  match setting, slot with
  | .id name, .id => made.message.id = name
  | .inReplyTo other, .id => made.message.id = other.message.id
  | .timestamp instant, .timestamp => made.message.timestamp = instant.text
  | .inReplyTo other, .cipher => made.cipher = other.cipher ∧ rest = entropy
  | .cipher ready, .cipher => made.cipher = some ready ∧ rest = entropy
  | .cipherKeys octets secret, .cipher => ∃ cipher,
    (PayloadCipher.make octets secret).runFrom entropy = (.ok cipher, rest) ∧ made.cipher = some cipher
  | .sealCipher ready, .sealCipher => made.sealCipher = some ready
  | .sealingKey recipient, .sealCipher => ∃ cipher,
    SealCipher.ofPublic recipient = .ok cipher ∧ made.sealCipher = some cipher
  | .unsealingKey owner, .sealCipher => ∃ cipher,
    SealCipher.ofPrivate owner = .ok cipher ∧ made.sealCipher = some cipher
  | .key certified, .sealCipher => ∃ cipher,
    (match certified.privateKey? with
      | some owner => SealCipher.ofPrivate owner
      | none => SealCipher.ofPublic certified.sealingKey) = .ok cipher ∧ made.sealCipher = some cipher
  | _, _ => False

/-- A key chooses the cipher of its private half, if it has one. -/
theorem SealChoice.cipher_ofKey (key : AnyKey) :
    (ofKey key).cipher =
      match key.privateKey? with
      | some privateKey => SealCipher.ofPrivate privateKey
      | none => SealCipher.ofPublic key.sealingKey := by
  rw [ofKey]
  cases key.privateKey? <;> rfl

/-- What becomes of a slot that no setting is about: it stays as it is, and nothing is drawn for it. -/
def Slot.Keeps (slot : Slot) (blank made : Envelope) (entropy rest : Entropy) : Prop :=
  match slot with
  | .id => made.message.id = blank.message.id
  | .timestamp => made.message.timestamp = blank.message.timestamp
  | .cipher => made.cipher = blank.cipher ∧ rest = entropy
  | .sealCipher => made.sealCipher = blank.sealCipher

/-- Envelopes that differ in nothing but what settings can be about. -/
def Envelope.SameBesideSlots (envelope other : Envelope) : Prop :=
  other = { envelope with
    message := { envelope.message with
      id := other.message.id
      timestamp := other.message.timestamp }
    cipher := other.cipher
    sealCipher := other.sealCipher }

namespace Options

/-- What options make of a slot. -/
def Makes (options : Options) (slot : Slot) (blank made : Envelope) (entropy rest : Entropy) : Prop :=
  match slot with
  | .id => made.message.id = options.id.getD blank.message.id
  | .timestamp =>
    made.message.timestamp = (options.timestamp.map Time.Instant.text).getD blank.message.timestamp
  | .cipher => ∃ cipher,
    (options.cipher.mapM CipherChoice.cipher).runFrom entropy = (.ok cipher, rest) ∧
      made.cipher = cipher.or blank.cipher
  | .sealCipher => ∃ sealCipher,
    options.sealCipher.mapM SealChoice.cipher = .ok sealCipher ∧
      made.sealCipher = sealCipher.or blank.sealCipher

section Makes

variable {options others : Options} {slot : Slot} {blank made : Envelope} {entropy rest : Entropy}

/-- **Options are applied slot by slot**, and touch nothing else. -/
theorem runFrom_apply_eq_ok_iff_makes :
    (options.apply blank).runFrom entropy = (.ok made, rest) ↔
      blank.SameBesideSlots made ∧ ∀ slot, options.Makes slot blank made entropy rest := by
  simp only [runFrom_apply_eq_ok, ciphers, Drawing.runFrom_bind_eq_ok, Drawing.runFrom_ofExcept_eq_ok,
    Drawing.runFrom_pure_eq_ok]
  constructor
  · rintro ⟨_, _, ⟨cipher, _, drawn, sealCipher, _, ⟨chosen, rfl⟩, same, rfl⟩, rfl⟩
    obtain ⟨rfl, rfl⟩ := Prod.mk.inj same
    refine ⟨rfl, ?_⟩
    rintro (_ | _ | _ | _)
    · rfl
    · rfl
    · exact ⟨_, drawn, rfl⟩
    · exact ⟨_, chosen, rfl⟩
  · rintro ⟨same, makes⟩
    obtain ⟨cipher, drawn, equipped⟩ := makes .cipher
    obtain ⟨sealCipher, chosen, owned⟩ := makes .sealCipher
    have id : made.message.id = options.id.getD blank.message.id := makes .id
    have timestamp : made.message.timestamp
        = (options.timestamp.map Time.Instant.text).getD blank.message.timestamp := makes .timestamp
    refine ⟨cipher, sealCipher,
      ⟨cipher, rest, drawn, sealCipher, rest, ⟨chosen, rfl⟩, rfl, rfl⟩, ?_⟩
    rw [same, equipped, owned, id, timestamp]
    rfl

/-- What options make of a slot is decided by what they have in it. -/
theorem SameIn.makes_iff (h : options.SameIn others slot) :
    options.Makes slot blank made entropy rest ↔ others.Makes slot blank made entropy rest := by
  cases slot with
  | id =>
    have same : options.id = others.id := h
    simp only [Makes, same]
  | timestamp =>
    have same : options.timestamp = others.timestamp := h
    simp only [Makes, same]
  | cipher =>
    have same : options.cipher = others.cipher := h
    simp only [Makes, same]
  | sealCipher =>
    have same : options.sealCipher = others.sealCipher := h
    simp only [Makes, same]

/-- Nothing is made of a slot that is not set. -/
theorem makes_none_iff :
    none.Makes slot blank made entropy rest ↔ slot.Keeps blank made entropy rest := by
  cases slot with
  | id => exact Iff.rfl
  | timestamp => exact Iff.rfl
  | cipher =>
    simp only [Makes, Slot.Keeps, none, Option.mapM_none, Drawing.runFrom_pure_eq_ok]
    constructor
    · rintro ⟨_, ⟨rfl, rfl⟩, same⟩
      exact ⟨same, rfl⟩
    · rintro ⟨same, rfl⟩
      exact ⟨.none, ⟨rfl, rfl⟩, same⟩
  | sealCipher =>
    simp only [Makes, Slot.Keeps, none, Option.mapM_none]
    constructor
    · rintro ⟨_, unset, same⟩
      cases unset
      exact same
    · intro same
      exact ⟨.none, rfl, same⟩

/-- A choice of a payload's cipher makes that cipher, whatever stood there. -/
theorem makes_cipher_iff {choice : CipherChoice} (chosen : options.cipher = some choice) :
    options.Makes .cipher blank made entropy rest ↔
      ∃ cipher, choice.cipher.runFrom entropy = (.ok cipher, rest) ∧ made.cipher = some cipher := by
  simp only [Makes, chosen, Option.mapM_some, map_eq_pure_bind, Drawing.runFrom_bind_eq_ok,
    Drawing.runFrom_pure_eq_ok]
  constructor
  · rintro ⟨_, ⟨cipher, _, drawn, rfl, rfl⟩, equipped⟩
    exact ⟨cipher, drawn, equipped⟩
  · rintro ⟨cipher, drawn, equipped⟩
    exact ⟨some cipher, ⟨cipher, rest, drawn, rfl, rfl⟩, equipped⟩

/-- A choice of a cipher of secrets makes that cipher, whatever stood there. -/
theorem makes_sealCipher_iff {choice : SealChoice} (chosen : options.sealCipher = some choice) :
    options.Makes .sealCipher blank made entropy rest ↔
      ∃ cipher, choice.cipher = .ok cipher ∧ made.sealCipher = some cipher := by
  simp only [Makes, chosen, Option.mapM_some]
  cases choice.cipher <;> simp

/-- A cipher that is ready stands as it is, and nothing is drawn for it. -/
theorem makes_ready_iff {cipher : PayloadCipher} (chosen : options.cipher = some (.ready cipher)) :
    options.Makes .cipher blank made entropy rest ↔ made.cipher = some cipher ∧ rest = entropy := by
  simp only [makes_cipher_iff chosen, CipherChoice.cipher, Drawing.runFrom_pure_eq_ok]
  constructor
  · rintro ⟨_, ⟨rfl, rfl⟩, equipped⟩
    exact ⟨equipped, rfl⟩
  · rintro ⟨equipped, rfl⟩
    exact ⟨cipher, ⟨rfl, rfl⟩, equipped⟩

/-- **A setting by itself makes what it says** of a slot that it is about. -/
theorem makes_set_iff {setting : Setting} (about : setting.isAbout slot = true) :
    (none.set setting).Makes slot blank made entropy rest ↔ setting.Makes slot made entropy rest := by
  cases setting with
  | id name =>
    cases slot with
    | id => exact Iff.rfl
    | _ => cases about
  | timestamp instant =>
    cases slot with
    | timestamp => exact Iff.rfl
    | _ => cases about
  | inReplyTo other =>
    cases slot with
    | id => exact Iff.rfl
    | cipher =>
      obtain ⟨cipher, equipped⟩ := Option.isSome_iff_exists.mp about
      have chosen : (none.set (.inReplyTo other)).cipher = some (.ready cipher) := by
        rw [set, equipped]
        rfl
      rw [makes_ready_iff chosen, ← equipped]
      exact Iff.rfl
    | _ => cases about
  | cipher cipher =>
    cases slot with
    | cipher => exact makes_ready_iff rfl
    | _ => cases about
  | cipherKeys key secret =>
    cases slot with
    | cipher =>
      have chosen : (none.set (.cipherKeys key secret)).cipher = some (.keys key secret) := rfl
      exact makes_cipher_iff chosen
    | _ => cases about
  | sealCipher cipher =>
    cases slot with
    | sealCipher =>
      have chosen : (none.set (.sealCipher cipher)).sealCipher = some (.ready cipher) := rfl
      rw [makes_sealCipher_iff chosen]
      simp [SealChoice.cipher, Setting.Makes]
    | _ => cases about
  | sealingKey key =>
    cases slot with
    | sealCipher =>
      have chosen : (none.set (.sealingKey key)).sealCipher = some (.sealing key) := rfl
      exact makes_sealCipher_iff chosen
    | _ => cases about
  | unsealingKey key =>
    cases slot with
    | sealCipher =>
      have chosen : (none.set (.unsealingKey key)).sealCipher = some (.unsealing key) := rfl
      exact makes_sealCipher_iff chosen
    | _ => cases about
  | key key =>
    cases slot with
    | sealCipher =>
      have chosen : (none.set (.key key)).sealCipher = some (.ofKey key) := rfl
      rw [makes_sealCipher_iff chosen, SealChoice.cipher_ofKey]
      exact Iff.rfl
    | _ => cases about

end Makes

/-- **What comes out of settings**: in each slot what the last setting about it makes, or else what stood
there. -/
theorem runFrom_apply_ofSettings_iff {settings : List Setting} {blank made : Envelope}
    {entropy rest : Entropy} :
    ((ofSettings settings).apply blank).runFrom entropy = (.ok made, rest) ↔
      blank.SameBesideSlots made ∧ ∀ slot,
        match lastAbout slot settings with
        | some setting => setting.Makes slot made entropy rest
        | .none => slot.Keeps blank made entropy rest := by
  rw [runFrom_apply_eq_ok_iff_makes]
  refine and_congr_right fun _ => forall_congr' fun slot => ?_
  rw [(sameIn_ofLast slot settings).makes_iff, ofLast]
  cases last : lastAbout slot settings with
  | none => exact makes_none_iff
  | some setting =>
    have about : setting.isAbout slot = true :=
      (List.mem_filter.mp (List.mem_of_getLast? last)).2
    exact makes_set_iff about

/-! ## What comes out -/

/-- Options that make the same of everything, on every random source: the same envelope or the same
fault, with the same octets drawn. -/
structure Interchangeable (options others : Options) : Prop where
  created : ∀ occasion payload entropy,
    (Envelope.create occasion payload options).runFrom entropy
      = (Envelope.create occasion payload others).runFrom entropy
  wrapped : ∀ message entropy,
    (Envelope.wrap message options).runFrom entropy = (Envelope.wrap message others).runFrom entropy

theorem Interchangeable.of_eq {options others : Options} (h : options = others) :
    Interchangeable options others := by
  subst h
  exact ⟨fun _ _ _ => rfl, fun _ _ => rfl⟩

/-- Options that fail for no envelope and draw nothing. -/
def IsHarmless (options : Options) : Prop :=
  ∀ envelope entropy, ∃ made, (options.apply envelope).runFrom entropy = (.ok made, entropy)

/-- Options make something of an envelope without drawing exactly if they make both ciphers so. -/
theorem exists_apply_iff {options : Options} {envelope : Envelope} {entropy : Entropy} :
    (∃ made, (options.apply envelope).runFrom entropy = (.ok made, entropy)) ↔
      (∃ cipher, (options.cipher.mapM CipherChoice.cipher).runFrom entropy = (.ok cipher, entropy)) ∧
      ∃ sealCipher, options.sealCipher.mapM SealChoice.cipher = .ok sealCipher := by
  simp only [runFrom_apply_eq_ok, ciphers, Drawing.runFrom_bind_eq_ok, Drawing.runFrom_ofExcept_eq_ok,
    Drawing.runFrom_pure_eq_ok]
  constructor
  · rintro ⟨_, _, _, ⟨cipher, _, drawn, sealCipher, _, ⟨chosen, rfl⟩, -, rfl⟩, -⟩
    exact ⟨⟨cipher, drawn⟩, sealCipher, chosen⟩
  · rintro ⟨⟨cipher, drawn⟩, sealCipher, chosen⟩
    exact ⟨_, cipher, sealCipher,
      ⟨cipher, entropy, drawn, sealCipher, entropy, ⟨chosen, rfl⟩, rfl, rfl⟩, rfl⟩

/-- Options are harmless exactly if both of their ciphers are. -/
theorem isHarmless_iff {options : Options} :
    options.IsHarmless ↔
      (∀ entropy, ∃ cipher,
        (options.cipher.mapM CipherChoice.cipher).runFrom entropy = (.ok cipher, entropy)) ∧
      ∃ sealCipher, options.sealCipher.mapM SealChoice.cipher = .ok sealCipher := by
  constructor
  · intro harmless
    have parts (entropy : Entropy) := exists_apply_iff.mp (harmless (.ofMessage .empty) entropy)
    exact ⟨fun entropy => (parts entropy).1, (parts ⟨fun _ => 0, 0, .none⟩).2⟩
  · rintro ⟨cipher, sealCipher⟩ envelope entropy
    exact exists_apply_iff.mpr ⟨cipher entropy, sealCipher⟩

/-- **Settings are harmless** if the last about each slot is, whatever was replaced. -/
theorem isHarmless_of_lasts {settings : List Setting}
    (lasts : ∀ slot, (ofLast slot settings).IsHarmless) : (ofSettings settings).IsHarmless := by
  rw [ofSettings_eq_ofLasts, isHarmless_iff]
  exact ⟨(isHarmless_iff.mp (lasts .cipher)).1, (isHarmless_iff.mp (lasts .sealCipher)).2⟩

/-- **The last setting about each slot decides.** Envelopes come out under settings as under nothing but
the last about each slot; settings about different slots can change places; one whose slots are all set
again later can be left out, with whatever it would have failed for or drawn; and nothing fails or is
drawn unless the last setting about some slot does so by itself. An envelope is made exactly if it has in
each slot what the last setting about it makes, or what stood there if there is none, and all else as before. -/
theorem last_setting_decides :
    (∀ settings, Interchangeable (ofSettings settings) (ofLasts settings)) ∧
    (∀ earlier first second later,
      (∀ slot, ¬ (first.isAbout slot = true ∧ second.isAbout slot = true)) →
      Interchangeable (ofSettings (earlier ++ first :: second :: later))
        (ofSettings (earlier ++ second :: first :: later))) ∧
    (∀ earlier replaced later,
      (∀ slot, replaced.isAbout slot = true → ∃ setting ∈ later, setting.isAbout slot = true) →
      Interchangeable (ofSettings (earlier ++ replaced :: later)) (ofSettings (earlier ++ later))) ∧
    (∀ settings, (∀ slot, (ofLast slot settings).IsHarmless) → (ofSettings settings).IsHarmless) ∧
    ∀ settings blank made entropy rest,
      ((ofSettings settings).apply blank).runFrom entropy = (.ok made, rest) ↔
        blank.SameBesideSlots made ∧ ∀ slot,
          match lastAbout slot settings with
          | some setting => setting.Makes slot made entropy rest
          | .none => slot.Keeps blank made entropy rest := by
  refine ⟨?_, ?_, ?_, ?_, ?_⟩
  · intro settings
    exact .of_eq (ofSettings_eq_ofLasts settings)
  · intro earlier first second later apart
    exact .of_eq (ofSettings_swap earlier later apart)
  · intro earlier replaced later again
    exact .of_eq (ofSettings_of_replaced earlier later again)
  · intro settings lasts
    exact isHarmless_of_lasts lasts
  · intro settings blank made entropy rest
    exact runFrom_apply_ofSettings_iff

/-- An empty key and an unusable one, both replaced: they can be left out, a name can be set before or
after the last key, and nothing fails or is drawn. -/
theorem isHarmless_of_replaced_keys :
    let key : Setting := .cipherKeys [1] [2]
    let recipient : Setting := .sealingKey (.rsa ⟨35, 3, by decide⟩)
    let settings : List Setting := [.cipherKeys [] [], .sealingKey (.other "ECDSA" []), key, recipient]
    Interchangeable (ofSettings settings) (ofLasts settings) ∧
      Interchangeable (ofSettings settings)
        (ofSettings [.sealingKey (.other "ECDSA" []), key, recipient]) ∧
      Interchangeable (ofSettings [.id "reply", key, recipient])
        (ofSettings [key, .id "reply", recipient]) ∧
      (ofSettings settings).IsHarmless := by
  intro key recipient settings
  refine ⟨last_setting_decides.1 settings, ?_, ?_, ?_⟩
  · refine last_setting_decides.2.2.1 [] _ _ ?_
    intro slot about
    exact ⟨key, by simp, by cases slot <;> simp_all [Setting.isAbout, key]⟩
  · refine last_setting_decides.2.1 [] _ _ _ ?_
    intro slot both
    cases slot <;> simp_all [Setting.isAbout, key]
  · refine last_setting_decides.2.2.2.1 settings ?_
    intro slot
    rw [isHarmless_iff]
    cases slot with
    | cipher =>
      refine ⟨?_, .none, rfl⟩
      intro entropy
      refine ⟨some (.ofKey [1] [2] (by decide)), ?_⟩
      show (PayloadCipher.make [1] [2] >>= fun cipher => pure (some cipher)).runFrom entropy = _
      rw [Drawing.runFrom_bind_of_ok (PayloadCipher.runFrom_make (by decide) entropy)]
      rfl
    | sealCipher =>
      exact ⟨fun _ => ⟨.none, rfl⟩, some (.recipient ⟨35, 3, by decide⟩), rfl⟩
    | _ => exact ⟨fun _ => ⟨.none, rfl⟩, .none, rfl⟩

end Options

end SealedTransfer
