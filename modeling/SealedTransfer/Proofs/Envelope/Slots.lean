/-
# SealedTransfer.Proofs.Envelope.Slots — what settings put into slots

Settings fall into four slots. A setting puts a value of its own into each slot that it is about,
whatever stood there, and leaves the other slots alone. So what stands in a slot after many settings is
what the last one about it puts there: settings about different slots can change places, and one whose
slots are all set again later might as well not have been made.
-/
import SealedTransfer.Envelope.Options
import Mathlib.Data.List.Induction

namespace SealedTransfer

/-- What a setting can be about. -/
inductive Slot where
  | id
  | timestamp
  | cipher
  | sealCipher
deriving DecidableEq, Repr

/-- Whether a setting is about a slot. A reply is about the cipher of the payload only if the envelope
that it answers has one. -/
def Setting.isAbout : Setting → Slot → Bool
  | .id _, .id => true
  | .timestamp _, .timestamp => true
  | .inReplyTo _, .id => true
  | .inReplyTo envelope, .cipher => envelope.cipher.isSome
  | .cipher _, .cipher => true
  | .cipherKeys _ _, .cipher => true
  | .sealCipher _, .sealCipher => true
  | .sealingKey _, .sealCipher => true
  | .unsealingKey _, .sealCipher => true
  | .key _, .sealCipher => true
  | _, _ => false

namespace Options

/-! ## Slot by slot -/

/-- Whether options have the same in a slot. -/
def SameIn (options others : Options) : Slot → Prop
  | .id => options.id = others.id
  | .timestamp => options.timestamp = others.timestamp
  | .cipher => options.cipher = others.cipher
  | .sealCipher => options.sealCipher = others.sealCipher

section SameIn

variable {options others third : Options} {slot : Slot}

theorem SameIn.refl (options : Options) (slot : Slot) : options.SameIn options slot := by
  cases slot <;> rfl

theorem SameIn.symm (h : options.SameIn others slot) : others.SameIn options slot := by
  cases slot <;> exact Eq.symm h

theorem SameIn.trans (h : options.SameIn others slot) (h' : others.SameIn third slot) :
    options.SameIn third slot := by
  cases slot <;> exact Eq.trans h h'

/-- Options that have the same in all slots are the same. -/
theorem eq_of_sameIn (h : ∀ slot, options.SameIn others slot) : options = others := by
  obtain ⟨id, timestamp, cipher, sealCipher⟩ := options
  obtain rfl : id = others.id := h .id
  obtain rfl : timestamp = others.timestamp := h .timestamp
  obtain rfl : cipher = others.cipher := h .cipher
  obtain rfl : sealCipher = others.sealCipher := h .sealCipher
  rfl

end SameIn

section Set

variable {setting : Setting} {slot : Slot}

/-- A setting leaves the slots alone that it is not about. -/
theorem sameIn_set_of_other (other : setting.isAbout slot = false) (options : Options) :
    (options.set setting).SameIn options slot := by
  cases setting with
  | inReplyTo envelope =>
    cases slot with
    | id => cases other
    | cipher =>
      have unequipped : envelope.cipher = .none :=
        Option.isNone_iff_eq_none.mp (Option.isSome_eq_false_iff.mp other)
      show (envelope.cipher.map .ready).or options.cipher = options.cipher
      rw [unequipped]
      rfl
    | _ => rfl
  | _ => cases slot <;> simp_all [Setting.isAbout, set, SameIn]

/-- What a setting puts into a slot that it is about does not hang on what stood there. -/
theorem sameIn_set_of_about (about : setting.isAbout slot = true) (options others : Options) :
    (options.set setting).SameIn (others.set setting) slot := by
  cases setting with
  | inReplyTo envelope =>
    cases slot with
    | id => rfl
    | cipher =>
      obtain ⟨cipher, equipped⟩ := Option.isSome_iff_exists.mp about
      show (envelope.cipher.map .ready).or options.cipher
        = (envelope.cipher.map .ready).or others.cipher
      rw [equipped]
      rfl
    | _ => cases about
  | _ => cases slot <;> simp_all [Setting.isAbout, set, SameIn]

/-- A setting keeps what is the same. -/
theorem SameIn.set {options others : Options} (h : options.SameIn others slot) (setting : Setting) :
    (options.set setting).SameIn (others.set setting) slot := by
  cases about : setting.isAbout slot with
  | true => exact sameIn_set_of_about about options others
  | false =>
    exact (sameIn_set_of_other about options).trans (h.trans (sameIn_set_of_other about others).symm)

end Set

/-! ## Settings in a row -/

section Rows

variable {options others : Options} {slot : Slot} {settings : List Setting}

/-- Settings in a row keep what is the same. -/
theorem SameIn.foldl (h : options.SameIn others slot) (settings : List Setting) :
    (settings.foldl Options.set options).SameIn (settings.foldl Options.set others) slot := by
  induction settings generalizing options others with
  | nil => exact h
  | cons setting settings ih => exact ih (h.set setting)

/-- Once a slot has been set, what stood there before does not matter. -/
theorem sameIn_foldl_of_about (about : ∃ setting ∈ settings, setting.isAbout slot = true)
    (options others : Options) :
    (settings.foldl set options).SameIn (settings.foldl set others) slot := by
  obtain ⟨setting, member, about⟩ := about
  obtain ⟨earlier, later, rfl⟩ := List.append_of_mem member
  simp only [List.foldl_append, List.foldl_cons]
  exact (sameIn_set_of_about about _ _).foldl later

/-- Later settings are made on the options that the earlier ones leave. -/
theorem ofSettings_append (earlier later : List Setting) :
    ofSettings (earlier ++ later) = later.foldl set (ofSettings earlier) :=
  List.foldl_append

/-- **Settings about different slots can change places.** -/
theorem ofSettings_swap (earlier later : List Setting) {first second : Setting}
    (apart : ∀ slot, ¬ (first.isAbout slot = true ∧ second.isAbout slot = true)) :
    ofSettings (earlier ++ first :: second :: later)
      = ofSettings (earlier ++ second :: first :: later) := by
  apply eq_of_sameIn
  intro slot
  simp only [ofSettings_append, List.foldl_cons]
  apply SameIn.foldl
  generalize ofSettings earlier = options
  cases about : first.isAbout slot with
  | false =>
    -- the first leaves the slot alone, so it can be left out on both sides
    exact ((sameIn_set_of_other about options).set second).trans (sameIn_set_of_other about _).symm
  | true =>
    have other : second.isAbout slot = false := Bool.eq_false_iff.mpr fun both => apart slot ⟨about, both⟩
    exact (sameIn_set_of_other other _).trans ((sameIn_set_of_other other options).symm.set first)

/-- **A setting whose slots are all set again later** might as well not have been made. -/
theorem ofSettings_of_replaced (earlier later : List Setting) {replaced : Setting}
    (again : ∀ slot, replaced.isAbout slot = true → ∃ setting ∈ later, setting.isAbout slot = true) :
    ofSettings (earlier ++ replaced :: later) = ofSettings (earlier ++ later) := by
  apply eq_of_sameIn
  intro slot
  simp only [ofSettings_append, List.foldl_cons]
  cases about : replaced.isAbout slot with
  | false => exact (sameIn_set_of_other about _).foldl later
  | true => exact sameIn_foldl_of_about (again slot about) _ _

end Rows

/-! ## The last setting about a slot -/

/-- The last setting about a slot, if there is one. -/
def lastAbout (slot : Slot) (settings : List Setting) : Option Setting :=
  (settings.filter (·.isAbout slot)).getLast?

/-- The options of the last setting about a slot, all by itself. -/
def ofLast (slot : Slot) (settings : List Setting) : Options :=
  ofSettings (lastAbout slot settings).toList

/-- **A slot stands as the last setting about it leaves it by itself.** -/
theorem sameIn_ofLast (slot : Slot) (settings : List Setting) :
    (ofSettings settings).SameIn (ofLast slot settings) slot := by
  induction settings using List.reverseRecOn with
  | nil => exact .refl _ slot
  | append_singleton settings setting ih =>
    rw [ofSettings_append]
    show ((ofSettings settings).set setting).SameIn _ slot
    cases about : setting.isAbout slot with
    | true =>
      have last : lastAbout slot (settings ++ [setting]) = some setting := by
        simp [lastAbout, about]
      rw [ofLast, last]
      exact sameIn_set_of_about about _ _
    | false =>
      have last : lastAbout slot (settings ++ [setting]) = lastAbout slot settings := by
        simp [lastAbout, about]
      rw [ofLast, last]
      exact (sameIn_set_of_other about _).trans ih

/-- The options with nothing but the last setting about each slot. -/
def ofLasts (settings : List Setting) : Options where
  id := (ofLast .id settings).id
  timestamp := (ofLast .timestamp settings).timestamp
  cipher := (ofLast .cipher settings).cipher
  sealCipher := (ofLast .sealCipher settings).sealCipher

theorem ofSettings_eq_ofLasts (settings : List Setting) : ofSettings settings = ofLasts settings := by
  apply eq_of_sameIn
  intro slot
  have same := sameIn_ofLast slot settings
  cases slot <;> exact same

end Options

end SealedTransfer
