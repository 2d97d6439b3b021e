/-
# SealedTransfer.Proofs.Pem — blocks are found again

The search for a marker finds only what is there, and it finds a marker that nothing before it begins.
So a block that is written under a tag without a dash is read back, and whatever follows it is read as
if the block were not there.
-/
import SealedTransfer.Pem
import SealedTransfer.Proofs.Text.Base64
import SealedTransfer.Proofs.Text.Utf8

namespace SealedTransfer

/-! ## Pieces -/

/-- No piece is empty. -/
theorem ne_nil_of_mem_chunks {α : Type} {size : Nat} {list piece : List α}
    (h : piece ∈ chunks size list) : piece ≠ [] := by
  fun_induction chunks size list with
  | case1 => cases h
  | case2 list more ih =>
    rcases List.mem_cons.mp h with rfl | later
    · rw [not_or, List.isEmpty_iff] at more
      rw [ne_eq, List.take_eq_nil_iff, not_or]
      exact more
    · exact ih later

/-- The entries of a piece are entries of the list. -/
theorem mem_of_mem_chunks {α : Type} {size : Nat} (positive : size ≠ 0) {list piece : List α} {a : α}
    (h : piece ∈ chunks size list) (among : a ∈ piece) : a ∈ list := by
  rw [← flatten_chunks positive list]
  exact List.mem_flatten_of_mem h among

namespace Pem

open Text (isBlank)

/-! ## Markers -/

section Markers

variable {w b : UInt8} {marker awaited front text before rest : Bytes}

/-- An octet that fits is passed, if it is not the last that is awaited. -/
theorem passMarker_of_fits (more : awaited ≠ []) (rest : Bytes) :
    passMarker marker (w :: awaited) (w :: rest) =
      (passMarker marker awaited rest).map fun found => (w :: found.1, found.2) := by
  rw [passMarker, if_pos rfl, if_neg (by rwa [List.isEmpty_iff])]
  cases passMarker marker awaited rest <;> rfl

/-- At an octet that does not fit the search begins again. -/
theorem passMarker_of_ne (positive : marker ≠ []) (h : b ≠ w) (rest : Bytes) :
    passMarker marker (w :: awaited) (b :: rest) =
      (passMarker marker marker rest).map fun found => (b :: found.1, found.2) := by
  rw [passMarker, if_neg h, if_neg (by rwa [List.isEmpty_iff])]
  cases passMarker marker marker rest <;> rfl

/-- Octets that do not begin a marker are passed over. -/
theorem passMarker_append (h : w ∉ front) (rest : Bytes) :
    passMarker (w :: marker) (w :: marker) (front ++ rest) =
      (passMarker (w :: marker) (w :: marker) rest).map fun found => (front ++ found.1, found.2) := by
  induction front with
  | nil => simp
  | cons b front ih =>
    rw [List.mem_cons, not_or] at h
    rw [List.cons_append, passMarker_of_ne (List.cons_ne_nil _ _) (Ne.symm h.1), ih h.2,
      Option.map_map]
    rfl

/-- A marker is passed octet by octet. -/
theorem passMarker_awaited (h : awaited ≠ []) (rest : Bytes) :
    passMarker marker awaited (awaited ++ rest) = some (awaited, rest) := by
  induction awaited with
  | nil => exact absurd rfl h
  | cons w awaited ih =>
    cases awaited with
    | nil => simp [passMarker]
    | cons next awaited =>
      rw [List.cons_append, passMarker_of_fits (List.cons_ne_nil _ _), ih (List.cons_ne_nil _ _),
        Option.map_some]

/-- **A text is cut at a marker** that nothing before it begins. -/
theorem cutAt_append (first : marker.head? = some w) (h : w ∉ front) (rest : Bytes) :
    cutAt marker (front ++ (marker ++ rest)) = some (front, rest) := by
  obtain ⟨tail, rfl⟩ := List.head?_eq_some_iff.mp first
  rw [cutAt, passMarker_append h, passMarker_awaited (List.cons_ne_nil _ _)]
  simp

/-- A text without the first octet of a marker is not cut. -/
theorem cutAt_eq_none (h : w ∉ text) : cutAt (w :: marker) text = none := by
  have passed : passMarker (w :: marker) (w :: marker) (text ++ []) = _ := passMarker_append h []
  rw [List.append_nil] at passed
  rw [cutAt, passed, passMarker, Option.map_none]

/-- The octets that are passed end with the marker, as far as it was still awaited. -/
theorem eq_of_passMarker {seen passed : Bytes} (whole : seen ++ awaited = marker)
    (h : awaited ≠ []) (found : passMarker marker awaited text = some (passed, rest)) :
    text = passed ++ rest ∧ marker <:+ seen ++ passed := by
  induction text generalizing seen awaited passed with
  | nil => cases awaited <;> simp [passMarker] at found
  | cons b text ih =>
    obtain ⟨w, awaited, rfl⟩ := List.exists_cons_of_ne_nil h
    have positive : marker ≠ [] := by
      rw [← whole]
      simp
    by_cases fits : b = w
    · subst fits
      cases awaited with
      | nil =>
        simp only [passMarker, if_true, List.isEmpty_nil, Option.some.injEq, Prod.mk.injEq] at found
        rw [← found.1, ← found.2, ← whole]
        exact ⟨rfl, List.suffix_refl _⟩
      | cons next awaited =>
        rw [passMarker_of_fits (List.cons_ne_nil _ _)] at found
        obtain ⟨⟨passed, after⟩, later, same⟩ := Option.map_eq_some_iff.mp found
        cases same
        have further : (seen ++ [b]) ++ next :: awaited = marker := by
          rwa [List.append_assoc]
        have step := ih further (List.cons_ne_nil _ _) later
        rw [List.append_assoc] at step
        exact ⟨congrArg (b :: ·) step.1, step.2⟩
    · -- at an octet that does not fit nothing of the marker has been seen
      rw [passMarker_of_ne positive fits] at found
      obtain ⟨⟨passed, after⟩, later, same⟩ := Option.map_eq_some_iff.mp found
      cases same
      have step := ih (List.nil_append marker) positive later
      refine ⟨congrArg (b :: ·) step.1, step.2.trans ?_⟩
      exact (List.suffix_cons b passed).trans (List.suffix_append seen _)

/-- **A cut is at the marker**: what stands before it, the marker, and what follows. -/
theorem eq_of_cutAt (positive : marker ≠ []) (h : cutAt marker text = some (before, rest)) :
    text = before ++ (marker ++ rest) := by
  unfold cutAt at h
  split at h
  · rename_i passed after found
    cases h
    obtain ⟨split, front, whole⟩ := eq_of_passMarker (List.nil_append marker) positive found
    rw [List.nil_append] at whole
    rw [split, ← whole]
    simp
  · cases h

end Markers

/-! ## Lines -/

/-- Lines that are not empty have no blank line between them, not even if one has just ended. -/
theorem passMarker_lines {lines : List Bytes} (h : ∀ line ∈ lines, line ≠ [] ∧ 0x0A ∉ line)
    (awaited : Bytes) :
    passMarker [0x0A, 0x0A] (0x0A :: awaited) (lines.flatMap (· ++ [0x0A])) = none := by
  induction lines generalizing awaited with
  | nil => rfl
  | cons line lines ih =>
    obtain ⟨some, whole⟩ := h line List.mem_cons_self
    obtain ⟨b, line, rfl⟩ := List.exists_cons_of_ne_nil some
    rw [List.mem_cons, not_or] at whole
    have later := ih (fun line among => h line (List.mem_cons_of_mem _ among)) []
    -- the first octet of the line makes the search begin again, and the rest of it is passed over
    rw [List.flatMap_cons, List.append_assoc, List.cons_append,
      passMarker_of_ne (List.cons_ne_nil _ _) (Ne.symm whole.1), passMarker_append whole.2,
      List.singleton_append, passMarker_of_fits (List.cons_ne_nil _ _), later]
    rfl

/-- No blank line is found among lines that are not empty. -/
theorem cutAt_blankLine {lines : List Bytes} (h : ∀ line ∈ lines, line ≠ [] ∧ 0x0A ∉ line) :
    cutAt [0x0A, 0x0A] (lines.flatMap (· ++ [0x0A])) = none := by
  rw [cutAt, passMarker_lines h]

/-! ## The characters of lines -/

/-- A symbol is neither white space nor a dash. -/
theorem plain_symbol : ∀ value < 64,
    isBlank (Text.Base64.symbol value) = false ∧ (Text.Base64.symbol value).toNat ≠ 0x2D := by
  decide

/-- What stands in lines is neither white space nor a dash. -/
theorem plain_of_mem_encode {bytes : Bytes} {c : Char} (h : c ∈ Text.Base64.encode bytes) :
    isBlank c = false ∧ c.toNat ≠ 0x2D := by
  obtain rfl | ⟨value, below, rfl⟩ := Text.Base64.mem_encode h
  · decide
  · exact plain_symbol value below

/-- The octet of a gap is not an octet of characters that are no white space. -/
theorem not_mem_of_isGap {b : UInt8} (gap : isGap b = true) {text : List Char}
    (h : ∀ c ∈ text, isBlank c = false) : b ∉ Text.Utf8.encodeChars text := by
  have blank (n : Nat) (listed : n ∈ [0x20, 0x09, 0x0D, 0x0A]) : ∀ c ∈ text, c.toNat ≠ n := by
    intro c among same
    have plain := h c among
    simp only [List.mem_cons, List.not_mem_nil, or_false] at listed
    rcases listed with rfl | rfl | rfl | rfl <;> simp [isBlank, same] at plain
  simp only [isGap, Bool.or_eq_true, beq_iff_eq] at gap
  rcases gap with ((rfl | rfl) | rfl) | rfl
  · exact Text.Utf8.not_mem_encodeChars (by decide) (blank 0x20 (by decide))
  · exact Text.Utf8.not_mem_encodeChars (by decide) (blank 0x09 (by decide))
  · exact Text.Utf8.not_mem_encodeChars (by decide) (blank 0x0D (by decide))
  · exact Text.Utf8.not_mem_encodeChars (by decide) (blank 0x0A (by decide))

/-! ## Parts of a block -/

namespace Block

/-- The lines of a block. -/
def lines (block : Block) : List (List Char) := chunks 64 (Text.Base64.encode block.contents)

/-- What stands between the markers of a block. -/
def body (block : Block) : Bytes :=
  (block.lines.map Text.Utf8.encodeChars).flatMap (· ++ [0x0A])

section Parts

variable {block : Block} {line : List Char}

theorem plain_of_mem_lines (h : line ∈ block.lines) :
    ∀ c ∈ line, isBlank c = false ∧ c.toNat ≠ 0x2D := by
  intro c among
  exact plain_of_mem_encode (mem_of_mem_chunks (by decide) h among)

theorem body_eq (block : Block) :
    block.body = Text.Utf8.encodeChars (block.lines.flatMap (· ++ ['\n'])) := by
  rw [body, Text.Utf8.encodeChars, List.flatMap_assoc, List.flatMap_map]
  congr 1
  funext line
  rw [Text.Utf8.encodeChars, List.flatMap_append]
  rfl

/-- An octet of a body is a line feed or an octet of a line. -/
theorem not_mem_body {b : UInt8} (other : b ≠ 0x0A)
    (h : ∀ line ∈ block.lines, b ∉ Text.Utf8.encodeChars line) : b ∉ block.body := by
  intro member
  obtain ⟨octets, inLines, inLine⟩ := List.mem_flatMap.mp member
  obtain ⟨line, inBlock, rfl⟩ := List.mem_map.mp inLines
  rcases List.mem_append.mp inLine with within | last
  · exact h line inBlock within
  · exact other (List.mem_singleton.mp last)

theorem dash_not_mem_body (block : Block) : 0x2D ∉ block.body :=
  not_mem_body (by decide) fun _ inBlock => Text.Utf8.not_mem_encodeChars (by decide)
    fun c among => (plain_of_mem_lines inBlock c among).2

theorem carriageReturn_not_mem_body (block : Block) : 0x0D ∉ block.body :=
  not_mem_body (by decide) fun _ inBlock =>
    not_mem_of_isGap (by decide) fun c among => (plain_of_mem_lines inBlock c among).1

/-- The lines of a block in octets: none is empty, and none has a line feed in it. -/
theorem whole_of_mem_lines :
    ∀ octets ∈ block.lines.map Text.Utf8.encodeChars, octets ≠ [] ∧ 0x0A ∉ octets := by
  intro octets inLines
  obtain ⟨line, inBlock, rfl⟩ := List.mem_map.mp inLines
  have some := Text.Utf8.encodeChars_ne_nil (ne_nil_of_mem_chunks inBlock)
  have plain := fun c among => (plain_of_mem_lines inBlock c among).1
  exact ⟨some, not_mem_of_isGap (by decide) plain⟩

/-- Lines are not skipped: none of them begins with a gap. -/
theorem dropWhile_body (block : Block) {b : UInt8} (solid : isGap b = false) (rest : Bytes) :
    (block.body ++ b :: rest).dropWhile isGap = block.body ++ b :: rest := by
  cases split : block.lines with
  | nil =>
    have empty : block.body = [] := by rw [body, split]; rfl
    rw [empty, List.nil_append, List.dropWhile_cons, solid]
    rfl
  | cons line lines =>
    have inBlock : line ∈ block.lines := split ▸ List.mem_cons_self
    have some := Text.Utf8.encodeChars_ne_nil (ne_nil_of_mem_chunks inBlock)
    obtain ⟨first, octets, front⟩ := List.exists_cons_of_ne_nil some
    have plain := fun c among => (plain_of_mem_lines inBlock c among).1
    have solid : isGap first = false :=
      Bool.eq_false_iff.mpr fun gap => not_mem_of_isGap gap plain (front ▸ List.mem_cons_self)
    rw [body, split, List.map_cons, List.flatMap_cons, front]
    simp only [List.cons_append, List.dropWhile_cons, solid]
    rfl

/-- What is left of the lines without white space is the base64 text. -/
theorem filter_lines (block : Block) :
    (block.lines.flatMap (· ++ ['\n'])).filter (fun c => !isBlank c)
      = Text.Base64.encode block.contents := by
  have unbroken : ∀ line ∈ block.lines, (line ++ ['\n']).filter (fun c => !isBlank c) = line := by
    intro line inBlock
    have kept : line.filter (fun c => !isBlank c) = line := by
      rw [List.filter_eq_self]
      intro c among
      rw [(plain_of_mem_lines inBlock c among).1]
      rfl
    rw [List.filter_append, kept]
    exact List.append_nil line
  rw [List.filter_flatMap, List.flatMap_def, List.map_congr_left unbroken, List.map_id']
  exact flatten_chunks (by decide) _

/-- **A block's contents are read** from what stands between its markers. -/
theorem contents?_body (block : Block) : contents? block.body = some block.contents := by
  have headless : splitHeaders block.body = ([], block.body) := by
    rw [splitHeaders, body, cutAt_blankLine whole_of_mem_lines, ← body,
      cutAt_eq_none block.carriageReturn_not_mem_body]
  rw [contents?, headless]
  simp only [block.body_eq, Text.Utf8.decodeChars?_encodeChars, block.filter_lines,
    Text.Base64.decode?_encode, Option.bind_eq_bind, Option.bind_some]
  rfl

end Parts

end Block

/-! ## Reading blocks -/

/-- A tag that ends where its marker begins. -/
def IsTag (tag : String) : Prop := tag ≠ "" ∧ '-' ∉ tag.toList

instance (tag : String) : Decidable (IsTag tag) := inferInstanceAs (Decidable (_ ∧ _))

theorem IsTag.dash_not_mem {tag : String} (h : IsTag tag) : 0x2D ∉ Text.Utf8.encode tag := by
  refine Text.Utf8.not_mem_encodeChars (by decide) ?_
  intro c among dash
  have same : c = '-' := Char.toNat_inj.mp dash
  exact h.2 (same ▸ among)

section Reading

variable {block : Block}

/-- The parts of a block as it is written. -/
def Block.raw (block : Block) : RawBlock :=
  ⟨Text.Utf8.encode block.tag, block.body, Text.Utf8.encode block.tag⟩

/-- The octets of a block: markers, tags and lines. -/
theorem Block.encode_eq (block : Block) :
    block.encode = Text.Utf8.encode "-----BEGIN " ++ (Text.Utf8.encode block.tag ++
      (Text.Utf8.encode "-----" ++ (0x0A :: (block.body ++ (Text.Utf8.encode "-----END " ++
        (Text.Utf8.encode block.tag ++ (Text.Utf8.encode "-----" ++ [0x0A]))))))) := by
  have last : Text.Utf8.encodeChars "-----\n".toList
      = Text.Utf8.encodeChars "-----".toList ++ [0x0A] := by
    decide
  unfold encode text
  simp only [body_eq, lines, Text.Utf8.encode, Text.Utf8.encodeChars_append, last,
    List.append_assoc, List.cons_append, List.nil_append]

/-- **A block is found** at the front of a text, and what is left is what follows it. -/
theorem nextRaw?_encode_append (tagged : IsTag block.tag) (rest : Bytes) :
    nextRaw? (block.encode ++ rest) = some (block.raw, rest.dropWhile isGap) := by
  have opened (rest : Bytes) : cutAt (Text.Utf8.encode "-----BEGIN ")
      (Text.Utf8.encode "-----BEGIN " ++ rest) = some ([], rest) := by
    rw [← List.nil_append (Text.Utf8.encode "-----BEGIN " ++ rest)]
    exact cutAt_append (w := 0x2D) (by decide) List.not_mem_nil rest
  have tag (rest : Bytes) : cutAt (Text.Utf8.encode "-----")
      (Text.Utf8.encode block.tag ++ (Text.Utf8.encode "-----" ++ rest))
        = some (Text.Utf8.encode block.tag, rest) :=
    cutAt_append (w := 0x2D) (by decide) tagged.dash_not_mem rest
  have ended (rest : Bytes) : cutAt (Text.Utf8.encode "-----END ")
      (block.body ++ (Text.Utf8.encode "-----END " ++ rest)) = some (block.body, rest) :=
    cutAt_append (w := 0x2D) (by decide) block.dash_not_mem_body rest
  have skipped (rest : Bytes) : List.dropWhile isGap
      (0x0A :: (block.body ++ (Text.Utf8.encode "-----END " ++ rest)))
        = block.body ++ (Text.Utf8.encode "-----END " ++ rest) :=
    block.dropWhile_body (b := 0x2D) (by decide) _
  rw [nextRaw?, block.encode_eq]
  simp only [List.append_assoc, List.cons_append, List.nil_append, opened, tag, skipped, ended,
    Option.bind_eq_bind, Option.bind_some]
  rfl

theorem rawBlocks_of_none {text : Bytes} (h : nextRaw? text = none) : rawBlocks text = [] := by
  rw [rawBlocks]
  split
  · rfl
  · rename_i found
    cases h.symm.trans found

theorem rawBlocks_of_some {text rest : Bytes} {raw : RawBlock}
    (h : nextRaw? text = some (raw, rest)) : rawBlocks text = raw :: rawBlocks rest := by
  rw [rawBlocks]
  split
  · rename_i missing
    cases h.symm.trans missing
  · rename_i found
    cases h.symm.trans found
    rfl

theorem block?_raw (tagged : IsTag block.tag) : block.raw.block? = some block := by
  rw [RawBlock.block?, Block.raw]
  simp only [Text.Utf8.decode?_encode, Option.bind_eq_bind, Option.bind_some, tagged.1, ne_eq,
    not_true_eq_false, or_self, if_false, block.contents?_body]

/-- **A block is read back**, and what follows it is read by itself. -/
theorem blocks?_encode_append (tagged : IsTag block.tag) (rest : Bytes) :
    blocks? (block.encode ++ rest) = (blocks? (rest.dropWhile isGap)).map (block :: ·) := by
  rw [blocks?, rawBlocks_of_some (nextRaw?_encode_append tagged rest), List.mapM_cons,
    block?_raw tagged, ← blocks?]
  cases blocks? (rest.dropWhile isGap) <;> rfl

/-- Nothing holds no blocks. -/
theorem blocks?_nil : blocks? [] = some [] := by
  rw [blocks?, rawBlocks_of_none rfl]
  rfl

/-- A block by itself is read back. -/
theorem blocks?_encode (tagged : IsTag block.tag) : blocks? block.encode = some [block] := by
  have read := blocks?_encode_append tagged []
  rw [List.append_nil, List.dropWhile_nil, blocks?_nil] at read
  exact read

/-- A block begins with a dash. -/
theorem exists_encode_eq (block : Block) : ∃ rest, block.encode = 0x2D :: rest := by
  rw [block.encode_eq]
  exact ⟨_, rfl⟩

/-- Two blocks are read back, whatever gap there is between them. -/
theorem blocks?_encode_gap {gap : Bytes} {second : Block} (tagged : IsTag block.tag)
    (skipped : ∀ b ∈ gap, isGap b = true) (tagged' : IsTag second.tag) :
    blocks? (block.encode ++ (gap ++ second.encode)) = some [block, second] := by
  obtain ⟨rest, dash⟩ := exists_encode_eq second
  have solid : second.encode.dropWhile isGap = second.encode := by
    rw [dash]
    exact List.dropWhile_cons_of_neg (by decide)
  rw [blocks?_encode_append tagged, List.dropWhile_append_of_pos skipped, solid,
    blocks?_encode tagged']
  rfl

/-- A text without a begin marker holds no blocks. -/
theorem blocks?_of_no_marker {text : Bytes} (h : ¬ Text.Utf8.encode "-----BEGIN " <:+: text) :
    blocks? text = some [] := by
  have none : nextRaw? text = none := by
    cases cut : cutAt (Text.Utf8.encode "-----BEGIN ") text with
    | none => rw [nextRaw?, cut]; rfl
    | some parts =>
      have there := eq_of_cutAt (by decide) cut
      exact absurd ⟨parts.1, parts.2, by rw [there, List.append_assoc]⟩ h
  rw [blocks?, rawBlocks_of_none none]
  rfl

end Reading

end Pem

end SealedTransfer
