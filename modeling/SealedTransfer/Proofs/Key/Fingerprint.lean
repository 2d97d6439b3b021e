/-
# SealedTransfer.Proofs.Key.Fingerprint — which texts name which key

A fingerprint has one colon. Before it stands the name of a hash, in letters of any case and with white
space around it; behind it stands the sum in base64 without padding, in its one form. Reading accepts these
texts and no others, so a text identifies a key exactly if it spells the key's own fingerprint under some
hash.
-/
import SealedTransfer.Key.Fingerprint
import SealedTransfer.Proofs.Text.Base64
import SealedTransfer.Proofs.Text.Pieces

namespace SealedTransfer

/-! ## Names of hashes -/

/-- White space has no upper case. -/
theorem Text.asciiUpper_of_isBlank {c : Char} (blank : isBlank c = true) : asciiUpper c = c := by
  simp only [isBlank, Bool.or_eq_true, Bool.and_eq_true, decide_eq_true_eq, beq_iff_eq] at blank
  rw [asciiUpper, if_neg (by omega)]

namespace FingerprintHash

/-- The texts that name a hash: its name in letters of any case, with white space around it. -/
inductive Named (hash : FingerprintHash) : List Char → Prop
  | intro {left name right : List Char} (blankLeft : Text.AllBlank left)
      (blankRight : Text.AllBlank right)
      (spelled : name.map Text.asciiUpper = hash.name.toList) : Named hash (left ++ name ++ right)

/-- A name is made of letters and digits: neither of white space nor of colons. -/
theorem solid_name (hash : FingerprintHash) :
    (∀ c ∈ hash.name.toList, Text.isBlank c = false) ∧ ':' ∉ hash.name.toList := by
  cases hash <;> simp [FingerprintHash.name, Text.isBlank]

/-- Neither is a name in letters of any case. -/
theorem solid_of_spelled {hash : FingerprintHash} {name : List Char}
    (spelled : name.map Text.asciiUpper = hash.name.toList) :
    (∀ c ∈ name, Text.isBlank c = false) ∧ ':' ∉ name := by
  obtain ⟨solid, noColon⟩ := hash.solid_name
  rw [← spelled] at solid noColon
  constructor
  · intro c member
    rw [← Bool.not_eq_true]
    intro blank
    -- white space would be in the name itself, since it has no upper case
    have upper := solid _ (List.mem_map_of_mem member)
    rw [Text.asciiUpper_of_isBlank blank, blank] at upper
    cases upper
  · intro member
    exact noColon (List.mem_map_of_mem (f := Text.asciiUpper) member)

/-- The name of a hash names it. -/
theorem named_name (hash : FingerprintHash) : hash.Named hash.name.toList := by
  have upper : hash.name.toList.map Text.asciiUpper = hash.name.toList := by cases hash <;> decide
  have bare := @Named.intro hash [] _ [] nofun nofun upper
  rwa [List.nil_append, List.append_nil] at bare

/-- There is no colon in a text that names a hash. -/
theorem Named.colon_not_mem {hash : FingerprintHash} {text : List Char} (h : hash.Named text) :
    ':' ∉ text := by
  have colon : Text.isBlank ':' = false := by decide
  cases h with
  | intro blankLeft blankRight spelled =>
    simp only [List.mem_append, not_or]
    refine ⟨⟨?_, (solid_of_spelled spelled).2⟩, ?_⟩
    · intro member
      exact Bool.false_ne_true (colon.symm.trans (blankLeft _ member))
    · intro member
      exact Bool.false_ne_true (colon.symm.trans (blankRight _ member))

/-- **A text names a hash** exactly if its name is left when white space and case are taken away. -/
theorem named_iff {text : List Char} {hash : FingerprintHash} :
    hash.Named text ↔ (Text.trimBlanks text).map Text.asciiUpper = hash.name.toList := by
  constructor
  · rintro ⟨blankLeft, blankRight, spelled⟩
    rename_i left name right
    have some : name ≠ [] := by
      rintro rfl
      cases hash <;> cases spelled
    rwa [Text.trimBlanks_surrounded blankLeft blankRight (solid_of_spelled spelled).1 some]
  · intro spelled
    obtain ⟨left, right, blankLeft, blankRight, whole⟩ := Text.exists_surrounding text
    rw [whole]
    exact .intro blankLeft blankRight spelled

/-- **A hash is found** by exactly the texts that name it. -/
theorem ofName?_eq_some_iff {text : List Char} {hash : FingerprintHash} :
    ofName? text = some hash ↔ hash.Named text := by
  rw [named_iff]
  constructor
  · intro found
    have same : hash.name = String.ofList ((Text.trimBlanks text).map Text.asciiUpper) := by
      simpa using List.find?_some found
    rw [same, String.toList_ofList]
  · intro spelled
    have only : [md5, sha256, sha512].find? (fun other => other.name = hash.name) = some hash := by
      cases hash <;> decide
    simpa only [ofName?, spelled, String.ofList_toList] using only

theorem ofName_eq_ok_iff {text : List Char} {hash : FingerprintHash} :
    ofName text = .ok hash ↔ hash.Named text := by
  rw [← ofName?_eq_some_iff, ofName]
  cases ofName? text <;> simp

end FingerprintHash

/-! ## Fingerprints -/

namespace Fingerprint

/-- The texts that spell a fingerprint: a name of its hash, a colon, and the one form of its sum. -/
def SpelledBy (fingerprint : Fingerprint) (text : String) : Prop :=
  ∃ name, fingerprint.hash.Named name ∧
    text.toList = name ++ ':' :: Text.Base64.encodeUnpadded fingerprint.sum

/-- The text of a fingerprint spells it. -/
theorem spelledBy_text (fingerprint : Fingerprint) : fingerprint.SpelledBy fingerprint.text :=
  ⟨_, fingerprint.hash.named_name, by simp [text]⟩

/-- There is one colon in a text that spells a fingerprint. -/
theorem SpelledBy.count_colon {fingerprint : Fingerprint} {text : String}
    (h : fingerprint.SpelledBy text) : text.toList.count ':' = 1 := by
  obtain ⟨name, named, whole⟩ := h
  rw [whole]
  exact Text.count_separator named.colon_not_mem (Text.Base64.colon_not_mem_encodeUnpadded _)

/-- **Reading accepts exactly the texts that spell a fingerprint.** -/
theorem ofText_eq_ok_iff {text : String} {fingerprint : Fingerprint} :
    ofText text = .ok fingerprint ↔ fingerprint.SpelledBy text := by
  constructor
  · intro read
    unfold ofText at read
    split at read
    · rename_i name sum pieces
      obtain ⟨whole, -, -⟩ := Text.splitAll_eq_pair_iff.mp pieces
      obtain ⟨hash, named, read⟩ := bind_eq_ok.mp read
      split at read
      · rename_i octets decoded
        cases read
        rw [Text.Base64.decodeUnpadded?_eq_some_iff] at decoded
        rw [decoded] at whole
        exact ⟨name, FingerprintHash.ofName_eq_ok_iff.mp named, whole⟩
      · cases read
    · cases read
  · rintro ⟨name, named, whole⟩
    have pieces : Text.splitAll ':' text.toList
        = [name, Text.Base64.encodeUnpadded fingerprint.sum] :=
      Text.splitAll_eq_pair_iff.mpr
        ⟨whole, named.colon_not_mem, Text.Base64.colon_not_mem_encodeUnpadded _⟩
    rw [ofText, pieces]
    refine bind_eq_ok.mpr ⟨_, FingerprintHash.ofName_eq_ok_iff.mpr named, ?_⟩
    rw [Text.Base64.decodeUnpadded?_encodeUnpadded]

/-- **A fingerprint is read back** from its text. -/
@[simp] theorem ofText_text (fingerprint : Fingerprint) :
    ofText fingerprint.text = .ok fingerprint :=
  ofText_eq_ok_iff.mpr fingerprint.spelledBy_text

/-- **A text identifies a key** exactly if it spells the key's fingerprint under some hash. -/
theorem identifies_iff {text : String} {key : PublicKey} :
    identifies text key = true ↔ ∃ hash, (ofKey hash key).SpelledBy text := by
  constructor
  · intro same
    unfold identifies at same
    split at same
    · rename_i fingerprint read
      rw [decide_eq_true_iff] at same
      rw [same] at read
      exact ⟨fingerprint.hash, ofText_eq_ok_iff.mp read⟩
    · cases same
  · rintro ⟨hash, spelled⟩
    rw [identifies, ofText_eq_ok_iff.mpr spelled]
    exact decide_eq_true rfl

/-- **A key's fingerprint identifies it**, under every hash. -/
theorem identifies_text_ofKey (hash : FingerprintHash) (key : PublicKey) :
    identifies (ofKey hash key).text key = true :=
  identifies_iff.mpr ⟨hash, spelledBy_text _⟩

end Fingerprint

end SealedTransfer
