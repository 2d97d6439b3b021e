/-
# SealedTransfer.Proofs.Pem.Tagged — blocks kind by kind

Key data and chains are read block by block, and what counts of them is sorted by kind. The tags say which
blocks are of a kind, so the entries of that kind are what these blocks hold, in their order, wherever
other blocks stand between them.
-/
import Mathlib.Data.List.Forall2
import SealedTransfer.Fault
import SealedTransfer.Pem

namespace SealedTransfer

/-! ## Lists read entry by entry -/

section Reading

/-- A list is read to items if each entry is read to its item, in any effect whose results go through
sequencing. -/
theorem mapM_yields_iff {m : Type → Type} [Monad m] [LawfulMonad m]
    (yields : {γ : Type} → m γ → γ → Prop)
    (result : ∀ {γ : Type} {a b : γ}, yields (pure a) b ↔ a = b)
    (sequence : ∀ {γ δ : Type} {first : m γ} {next : γ → m δ} {b : δ},
      yields (first >>= next) b ↔ ∃ a, yields first a ∧ yields (next a) b)
    {α β : Type} {read : α → m β} {list : List α} {items : List β} :
    yields (list.mapM read) items ↔
      List.Forall₂ (fun a item => yields (read a) item) list items := by
  induction list generalizing items with
  | nil =>
    rw [List.mapM_nil, result, List.forall₂_nil_left_iff]
    exact eq_comm
  | cons a list ih =>
    rw [List.mapM_cons, sequence, List.forall₂_cons_left_iff]
    simp only [sequence, result, ih]
    constructor
    · rintro ⟨item, first, others, later, rfl⟩
      exact ⟨item, others, first, later, rfl⟩
    · rintro ⟨item, others, first, later, rfl⟩
      exact ⟨item, first, others, later, rfl⟩

variable {α β ε : Type}

/-- A list is read if each entry is. -/
theorem mapM_eq_some_iff {read : α → Option β} {list : List α} {items : List β} :
    list.mapM read = some items ↔ List.Forall₂ (fun a item => read a = some item) list items :=
  mapM_yields_iff (fun first b => first = some b) Option.some_inj Option.bind_eq_some_iff

/-- A list is read without a fault if each entry is. -/
theorem mapM_eq_ok_iff {read : α → Except ε β} {list : List α} {items : List β} :
    list.mapM read = .ok items ↔ List.Forall₂ (fun a item => read a = .ok item) list items :=
  mapM_yields_iff (fun first b => first = Except.ok b) (Except.ok.injEq _ _).to_iff bind_eq_ok

/-- Entries can be read in a row if each of them can be read. -/
theorem exists_forall₂_iff {reads : α → β → Prop} {list : List α} :
    (∃ items, List.Forall₂ reads list items) ↔ ∀ a ∈ list, ∃ item, reads a item := by
  induction list with
  | nil => exact ⟨nofun, fun _ => ⟨[], .nil⟩⟩
  | cons a list ih =>
    rw [List.forall_mem_cons, ← ih]
    constructor
    · rintro ⟨_, row⟩
      cases row with
      | cons first others => exact ⟨⟨_, first⟩, ⟨_, others⟩⟩
    · rintro ⟨⟨item, first⟩, items, others⟩
      exact ⟨item :: items, .cons first others⟩

end Reading

namespace Pem

/-! ## Blocks of a kind -/

/-- The blocks with one of the tags. -/
def tagged (tags : List String) (blocks : List Block) : List Block :=
  blocks.filter (·.tag ∈ tags)

section Tagged

variable {tags : List String} {block : Block} {blocks other front rest : List Block}

@[simp] theorem mem_tagged : block ∈ tagged tags blocks ↔ block ∈ blocks ∧ block.tag ∈ tags := by
  rw [tagged, List.mem_filter, decide_eq_true_iff]

/-- A block of another kind does not matter, wherever it stands. -/
theorem tagged_insert (ignored : block.tag ∉ tags) (front rest : List Block) :
    tagged tags (front ++ block :: rest) = tagged tags (front ++ rest) := by
  simp [tagged, ignored]

/-- The blocks of a kind are reordered as all blocks are. -/
theorem tagged_perm (same : blocks.Perm other) : (tagged tags blocks).Perm (tagged tags other) :=
  same.filter _

/-- **What is read of a kind is what its blocks hold**, if no other block has a part in it. -/
theorem forall₂_tagged {β γ : Type} {reads : Block → β → Prop} {holds : Block → γ → Prop}
    {part : β → Option γ}
    (own : ∀ block item, reads block item → block.tag ∈ tags → ∃ c, part item = some c ∧ holds block c)
    (foreign : ∀ block item, reads block item → block.tag ∉ tags → part item = none)
    {items : List β} (read : List.Forall₂ reads blocks items) :
    List.Forall₂ holds (tagged tags blocks) (items.filterMap part) := by
  induction read with
  | nil => exact .nil
  | @cons block item blocks items first later ih =>
    by_cases counts : block.tag ∈ tags
    · obtain ⟨c, found, held⟩ := own block item first counts
      have front : tagged tags (block :: blocks) = block :: tagged tags blocks :=
        List.filter_cons_of_pos (decide_eq_true counts)
      rw [front, List.filterMap_cons_some found]
      exact .cons held ih
    · have front : tagged tags (block :: blocks) = tagged tags blocks :=
        List.filter_cons_of_neg (by rwa [decide_eq_true_iff])
      rw [front, List.filterMap_cons_none (foreign block item first counts)]
      exact ih

end Tagged

end Pem

end SealedTransfer
