/-
# SealedTransfer.Proofs.Certificate — what a certificate tells survives being told

A certificate gives its times to the second and in years of four digits, so a timestamp to the second
names each of them exactly. Its key is an element of it, and elements have one encoding, so the key by
itself is read as it was read inside the certificate.
-/
import SealedTransfer.Certificate.Basic
import SealedTransfer.Proofs.Key.Public
import SealedTransfer.Proofs.Time.Rfc3339

namespace SealedTransfer

open Time (Date Instant)

/-! ## Times -/

/-- An instant that a date and a time of day make lies in the year of the date. -/
theorem Time.Instant.year_of_of? {date : Date} {clock nanos : Nat} {instant : Instant}
    (valid : date.isValid = true) (inDay : clock < 86400)
    (made : of? (date.dayNumber * 86400 + clock) nanos = some instant) :
    instant.date.year = date.year ∧ instant.nanos = nanos := by
  rw [of?] at made
  split at made
  · cases made
    have day : (date.dayNumber * 86400 + (clock : Int)) / 86400 = date.dayNumber := by omega
    refine ⟨?_, rfl⟩
    show (Date.ofDayNumber ((date.dayNumber * 86400 + (clock : Int)) / 86400)).year = date.year
    rw [day]
    exact Date.year_ofDayNumber valid
  · cases made

namespace Asn1

/-- A time is in its year, and has nothing beyond the second. -/
theorem of_instantInYear? {year : Nat} {text : List Char} {instant : Instant}
    (read : instantInYear? year text = some instant) :
    instant.date.year = year ∧ instant.nanos = 0 := by
  simp only [instantInYear?, Option.bind_eq_bind, Option.bind_eq_some_iff] at read
  obtain ⟨⟨month, _⟩, -, ⟨day, _⟩, -, ⟨hour, _⟩, -, ⟨minute, _⟩, -, ⟨second, _⟩, -, made⟩ := read
  split at made
  · rename_i checked
    obtain ⟨-, -, valid, hours, minutes, seconds⟩ := checked
    dsimp only at hours minutes seconds
    exact Instant.year_of_of? valid (show hour * 3600 + minute * 60 + second < 86400 by omega) made
  · cases made

/-- Years of times have four digits. -/
theorem of_time? {element : Element} {instant : Instant} (read : element.time? = some instant) :
    (0 ≤ instant.date.year ∧ instant.date.year ≤ 9999) ∧ instant.nanos = 0 := by
  have ofYear {year : Nat} {text : List Char} (small : year ≤ 9999)
      (read : instantInYear? year text = some instant) :
      (0 ≤ instant.date.year ∧ instant.date.year ≤ 9999) ∧ instant.nanos = 0 := by
    obtain ⟨same, whole⟩ := of_instantInYear? read
    omega
  simp only [Element.time?] at read
  split at read
  · obtain ⟨⟨year, _⟩, digits, found⟩ := Option.bind_eq_some_iff.mp read
    have few : year < 10 ^ 2 := Text.lt_of_takeDecimal digits
    refine ofYear ?_ found
    dsimp only [fullYear]
    split <;> omega
  · split at read
    · obtain ⟨⟨year, _⟩, digits, found⟩ := Option.bind_eq_some_iff.mp read
      have few : year < 10 ^ 4 := Text.lt_of_takeDecimal digits
      exact ofYear (by dsimp only; omega) found
    · cases read

/-- **A time is told exactly** by a timestamp to the second. -/
theorem ofText?_of_time? {element : Element} {instant : Instant}
    (read : element.time? = some instant) :
    Instant.ofText? instant.textToSecond = some instant := by
  obtain ⟨year, whole⟩ := of_time? read
  exact Instant.ofText?_textToSecond whole year

/-! ## Fields passed over -/

/-- What follows a numbered field is part of what it was taken from. -/
theorem mem_of_takeField {number : Nat} {elements : List Element} {element : Element}
    (left : element ∈ (takeField number elements).2) : element ∈ elements := by
  induction elements with
  | nil => exact left
  | cons first rest ih =>
    rw [takeField] at left
    split at left
    · exact List.mem_cons_of_mem _ (ih left)
    · split at left
      · exact List.mem_cons_of_mem _ left
      · exact left

theorem mem_of_wrappedField? {α : Type} {number : Nat} {read : Element → Option α}
    {elements rest : List Element} {value : Option α} {element : Element}
    (taken : wrappedField? number read elements = some (value, rest)) (left : element ∈ rest) :
    element ∈ elements := by
  rw [wrappedField?] at taken
  split at taken
  · rename_i found
    cases taken
    exact mem_of_takeField (by rw [found]; exact left)
  · rename_i found
    simp only [Option.bind_eq_bind, Option.bind_eq_some_iff] at taken
    obtain ⟨_, -, _, -, same⟩ := taken
    cases same
    exact mem_of_takeField (by rw [found]; exact left)

end Asn1

/-! ## Certificates -/

namespace Certificate

/-- What a certificate tells can be told on: its key by itself is read as the key, and its times are
read from their timestamps. -/
structure Tells (subjectKey : SubjectKey) (notBefore notAfter : Instant) : Prop where
  key : SubjectKey.decode? subjectKey.encode = some subjectKey
  notBefore : Instant.ofText? notBefore.textToSecond = some notBefore
  notAfter : Instant.ofText? notAfter.textToSecond = some notAfter

theorem ofText?_of_validity? {element : Asn1.Element} {notBefore notAfter : Instant}
    (read : validity? element = some (notBefore, notAfter)) :
    Instant.ofText? notBefore.textToSecond = some notBefore ∧
      Instant.ofText? notAfter.textToSecond = some notAfter := by
  simp only [validity?, Option.bind_eq_bind, Option.bind_eq_some_iff] at read
  obtain ⟨_, -, shape⟩ := read
  split at shape
  · simp only [Option.bind_eq_some_iff] at shape
    obtain ⟨_, readBefore, _, readAfter, same⟩ := shape
    cases same
    exact ⟨Asn1.ofText?_of_time? readBefore, Asn1.ofText?_of_time? readAfter⟩
  · cases shape

/-- A body tells its key and its times. -/
theorem tells_of_body? {element : Asn1.Element} {body : Body} (read : body? element = some body) :
    Tells body.subjectKey body.notBefore body.notAfter := by
  simp only [body?, Option.bind_eq_bind, Option.bind_eq_some_iff] at read
  obtain ⟨elements, parts, ⟨version, rest⟩, taken, shape⟩ := read
  split at shape
  · rename_i serial algorithm issuer validity subject key others fields
    simp only [Option.bind_eq_some_iff] at shape
    obtain ⟨_, -, ⟨notBefore, notAfter⟩, times, subjectKey, keyed, _, -, checked⟩ := shape
    have inside : key ∈ elements := by
      apply Asn1.mem_of_wrappedField? taken
      show key ∈ (version, rest).2
      rw [fields]
      simp
    split at checked
    · cases checked
      obtain ⟨before, after⟩ := ofText?_of_validity? times
      exact ⟨SubjectKey.decode?_encode_of_ofElement? ((Asn1.eq_of_sequence? parts).2 key inside) keyed,
        before, after⟩
    · cases checked
  · cases shape

theorem decode_eq_ok_iff {bytes : Bytes} {certificate : Certificate} :
    decode bytes = .ok certificate ↔ decode? bytes = some certificate := by
  rw [decode]
  cases decode? bytes with
  | none => exact ⟨nofun, nofun⟩
  | some found => rw [Except.ok.injEq, Option.some.injEq]

/-- **What a certificate tells can be told on.** -/
theorem tells_of_decode? {bytes : Bytes} {certificate : Certificate}
    (read : decode? bytes = some certificate) :
    Tells certificate.subjectKey certificate.notBefore certificate.notAfter := by
  simp only [decode?, Option.bind_eq_bind, Option.bind_eq_some_iff] at read
  obtain ⟨_, -, _, -, shape⟩ := read
  split at shape
  · simp only [Option.bind_eq_some_iff] at shape
    obtain ⟨body, found, _, -, _, -, same⟩ := shape
    cases same
    exact tells_of_body? found
  · cases shape

/-- The key of a certificate is key data for itself, and named as the certificate names it. -/
theorem of_publicKey {bytes : Bytes} {certificate : Certificate} {key : PublicKey}
    (read : decode? bytes = some certificate) (own : certificate.publicKey = .ok key) :
    KeyData.publicKey key.encode = .ok key ∧
      key.algorithm = keyAlgorithmName certificate.subjectKey.algorithm.id := by
  have decoded : PublicKey.decode? certificate.subjectKey.encode = some key :=
    PublicKey.decode_eq_ok_iff.mp own
  exact ⟨PublicKey.publicKey_encode_of_decode? decoded,
    PublicKey.algorithm_of_decode? (tells_of_decode? read).key decoded⟩

end Certificate

end SealedTransfer
