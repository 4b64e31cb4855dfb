import PictureTransfer.Toml.Document

/-!
# Documents in sections

A document that has entries at its top and then sections, each a header and the entries below it,
makes one table with an entry for each section (`Document.ofStatements?_sections`). All keys are
single, and none is given twice in the same table.
-/

namespace PictureTransfer.Toml

namespace Entries

/-- A key that is not among those of a table has no value there. -/
theorem get?_eq_none {key : String} {entries : Entries} :
    entries.get? key = none ↔ key ∉ entries.map Prod.fst := by
  induction entries with
  | nil => exact ⟨fun _ => List.not_mem_nil, fun _ => rfl⟩
  | cons entry rest ih =>
    rw [get?, List.map_cons, List.mem_cons, not_or]
    by_cases same : entry.1 = key
    · rw [if_pos same]
      exact ⟨fun found => absurd found (Option.some_ne_none _),
        fun other => absurd same.symm other.1⟩
    · rw [if_neg same, ih]
      exact ⟨fun absent => ⟨fun swapped => same swapped.symm, absent⟩, And.right⟩

/-- In a table that gives no key twice, a key has no value before its own. -/
theorem fresh_of_nodup {front rest : Entries} {p : String × Value}
    (apart : ((front ++ p :: rest).map Prod.fst).Nodup) : front.get? p.1 = none := by
  rw [List.map_append, List.nodup_append] at apart
  rw [get?_eq_none]
  exact fun early => apart.2.2 p.1 early p.1 List.mem_cons_self rfl

section Behind

variable {key : String} {entries : Entries} (fresh : entries.get? key = none)
include fresh

/-- The entries of other keys are passed over. -/
theorem get?_append (rest : Entries) : (entries ++ rest).get? key = rest.get? key := by
  induction entries with
  | nil => rfl
  | cons entry more ih =>
    rw [get?] at fresh
    split at fresh
    · cases fresh
    · next other => rw [List.cons_append, get?, if_neg other, ih fresh]

theorem set_append (v : Value) (rest : Entries) :
    (entries ++ rest).set key v = entries ++ rest.set key v := by
  induction entries with
  | nil => rfl
  | cons entry more ih =>
    rw [get?] at fresh
    split at fresh
    · cases fresh
    · next other => rw [List.cons_append, set, if_neg other, ih fresh, List.cons_append]

/-- A new entry comes last. -/
theorem set_of_fresh (v : Value) : entries.set key v = entries ++ [(key, v)] := by
  have last := set_append fresh v []
  rwa [List.append_nil] at last

end Behind

end Entries

/-- An entry as a statement. -/
def Statement.ofPair (p : String × Value) : Statement := .entry ⟨[], p.1⟩ p.2

/-- A section as the statements of its header and its entries. -/
def sectionStatements (s : String × Entries) : List Statement :=
  .table ⟨[], s.1⟩ :: s.2.map Statement.ofPair

/-- A section as an entry of the table of the document. -/
def sectionEntry (s : String × Entries) : String × Value := (s.1, .table .header s.2)

namespace Document

/-! ## Steps -/

/-- An entry at the top. -/
theorem step?_top {inner : Entries} {p : String × Value} (fresh : inner.get? p.1 = none) :
    step? ⟨inner, []⟩ (.ofPair p) = some ⟨inner ++ [p], []⟩ := by
  rw [Statement.ofPair, step?, Entries.within?, Entries.insert?, fresh, Entries.set_of_fresh fresh]
  rfl

section Header

variable {root : Entries} {key : String} (fresh : root.get? key = none)
include fresh

/-- A header makes an empty table, which comes last. -/
theorem step?_header (current : List String) :
    step? ⟨root, current⟩ (.table ⟨[], key⟩) = some ⟨root ++ [sectionEntry (key, [])], [key]⟩ := by
  rw [step?, Entries.within?, Entries.openTable?, fresh]
  dsimp only
  rw [Entries.set_of_fresh fresh]
  rfl

/-- An entry of the last table. -/
theorem step?_within {inner : Entries} {p : String × Value} (new : inner.get? p.1 = none) :
    step? ⟨root ++ [sectionEntry (key, inner)], [key]⟩ (.ofPair p)
      = some ⟨root ++ [sectionEntry (key, inner ++ [p])], [key]⟩ := by
  have last : Entries.get? key (root ++ [sectionEntry (key, inner)])
      = some (.table .header inner) := by
    rw [Entries.get?_append fresh, sectionEntry, Entries.get?, if_pos rfl]
  have inserted : Entries.within? (·.insert? p.1 p.2 []) [] inner = some (inner ++ [p]) := by
    rw [Entries.within?, Entries.insert?, new, Entries.set_of_fresh new]
    rfl
  rw [Statement.ofPair, step?, Entries.within?, last]
  dsimp only
  rw [inserted, Option.map_some, Option.map_some, Entries.set_append fresh, sectionEntry,
    Entries.set, if_pos rfl, sectionEntry]

end Header

/-! ## Runs -/

/-- Where each new entry comes last in the table at hand, so do the entries of a list. -/
theorem foldlM_pairs (fill : Entries → Entries) {current : List String}
    (one : ∀ {inner : Entries} {p : String × Value}, inner.get? p.1 = none →
      step? ⟨fill inner, current⟩ (.ofPair p) = some ⟨fill (inner ++ [p]), current⟩)
    (inner : Entries) {pairs : Entries} (apart : ((inner ++ pairs).map Prod.fst).Nodup) :
    (pairs.map Statement.ofPair).foldlM step? ⟨fill inner, current⟩
      = some ⟨fill (inner ++ pairs), current⟩ := by
  induction pairs generalizing inner with
  | nil => rw [List.append_nil]; rfl
  | cons p more ih =>
    have new := Entries.fresh_of_nodup apart
    rw [List.append_cons] at apart ⊢
    rw [List.map_cons, List.foldlM_cons, one new]
    exact ih _ apart

/-- A section makes one entry, which comes last. -/
theorem foldlM_section {root : Entries} {s : String × Entries} (fresh : root.get? s.1 = none)
    (apart : (s.2.map Prod.fst).Nodup) (current : List String) :
    (sectionStatements s).foldlM step? ⟨root, current⟩
      = some ⟨root ++ [sectionEntry s], [s.1]⟩ := by
  rw [sectionStatements, List.foldlM_cons, step?_header fresh]
  exact foldlM_pairs (fun inner => root ++ [sectionEntry (s.1, inner)]) (step?_within fresh) []
    apart

/-- A list of sections makes one entry each, behind what is there and in their order. -/
theorem foldlM_sections {root : Entries} {sections : List (String × Entries)}
    (apart : ((root ++ sections.map sectionEntry).map Prod.fst).Nodup)
    (within : ∀ s ∈ sections, (s.2.map Prod.fst).Nodup) (current : List String) :
    ((sections.flatMap sectionStatements).foldlM step? ⟨root, current⟩).map Document.root
      = some (root ++ sections.map sectionEntry) := by
  induction sections generalizing root current with
  | nil => rw [List.map_nil, List.append_nil]; rfl
  | cons s more ih =>
    have new : root.get? s.1 = none := Entries.fresh_of_nodup apart
    obtain ⟨first, others⟩ := List.forall_mem_cons.1 within
    rw [List.map_cons, List.append_cons] at apart ⊢
    rw [List.flatMap_cons, List.foldlM_append, foldlM_section new first]
    exact ih apart others _

/-- The table of a document with entries at the top and sections below. -/
theorem ofStatements?_sections {top : Entries} {sections : List (String × Entries)}
    (apart : ((top ++ sections.map sectionEntry).map Prod.fst).Nodup)
    (within : ∀ s ∈ sections, (s.2.map Prod.fst).Nodup) :
    ofStatements? (top.map Statement.ofPair ++ sections.flatMap sectionStatements)
      = some (top ++ sections.map sectionEntry) := by
  have front : (top.map Prod.fst).Nodup := by
    rw [List.map_append] at apart
    exact (List.nodup_append.1 apart).1
  have first : (top.map Statement.ofPair).foldlM step? {} = some ⟨top, []⟩ :=
    foldlM_pairs id step?_top [] front
  rw [ofStatements?, List.foldlM_append, first]
  exact foldlM_sections apart within []

end Document

end PictureTransfer.Toml
