/-!
Finite maps from texts, held as the list of their entries in strictly ascending order of the keys.
Two maps with the same content are equal, and listing a map needs no sorting. `get?_insert`,
`get?_erase` and `ext_get?` describe a map by its lookups.
-/
namespace StepFlow

structure TextMap (α : Type) where
  entries : List (String × α)
  ascending : entries.Pairwise fun a b => a.1 < b.1
  deriving DecidableEq, Repr

namespace TextMap

variable {α : Type}

def empty : TextMap α := ⟨[], .nil⟩

instance : EmptyCollection (TextMap α) := ⟨empty⟩

instance : Inhabited (TextMap α) := ⟨empty⟩

def get? (map : TextMap α) (key : String) : Option α := map.entries.lookup key

def contains (map : TextMap α) (key : String) : Bool := (map.get? key).isSome

def keys (map : TextMap α) : List String := map.entries.map (·.1)

def size (map : TextMap α) : Nat := map.entries.length

def isEmpty (map : TextMap α) : Bool := map.entries.isEmpty

def insertEntry (key : String) (value : α) : List (String × α) → List (String × α)
  | [] => [(key, value)]
  | (k, v) :: rest =>
      if key < k then (key, value) :: (k, v) :: rest
      else if key = k then (key, value) :: rest
      else (k, v) :: insertEntry key value rest

theorem mem_insertEntry {key : String} {value : α} {entry : String × α} :
    ∀ {entries : List (String × α)}, entry ∈ insertEntry key value entries →
      entry = (key, value) ∨ entry ∈ entries
  | [], member => by simpa [insertEntry] using member
  | (k, v) :: rest, member => by
      unfold insertEntry at member
      split at member
      · simpa using member
      · split at member
        · rcases List.mem_cons.mp member with same | inside
          · exact .inl same
          · exact .inr (List.mem_cons_of_mem _ inside)
        · rcases List.mem_cons.mp member with same | inside
          · exact .inr (same ▸ List.mem_cons_self)
          · exact (mem_insertEntry inside).imp_right (List.mem_cons_of_mem _)

theorem ascending_insertEntry (key : String) (value : α) :
    ∀ {entries : List (String × α)}, entries.Pairwise (fun a b => a.1 < b.1) →
      (insertEntry key value entries).Pairwise fun a b => a.1 < b.1
  | [], _ => by simp [insertEntry]
  | (k, v) :: rest, sorted => by
      obtain ⟨first, later⟩ := List.pairwise_cons.mp sorted
      unfold insertEntry
      split
      · rename_i below
        refine List.pairwise_cons.mpr ⟨fun entry member => ?_, sorted⟩
        rcases List.mem_cons.mp member with same | inside
        · exact same ▸ below
        · exact String.lt_trans below (first entry inside)
      · rename_i notBelow
        split
        · rename_i same
          exact List.pairwise_cons.mpr ⟨fun entry member => same ▸ first entry member, later⟩
        · rename_i differs
          refine List.pairwise_cons.mpr
            ⟨fun entry member => ?_, ascending_insertEntry key value later⟩
          rcases mem_insertEntry member with same | inside
          · subst same
            exact Decidable.byContradiction fun notAbove =>
              differs (String.le_antisymm notAbove notBelow)
          · exact first entry inside

def insert (map : TextMap α) (key : String) (value : α) : TextMap α :=
  ⟨insertEntry key value map.entries, ascending_insertEntry key value map.ascending⟩

def filterKeys (map : TextMap α) (keep : String → Bool) : TextMap α :=
  ⟨map.entries.filter (keep ·.1), map.ascending.filter _⟩

def erase (map : TextMap α) (key : String) : TextMap α := map.filterKeys (· != key)

/-- Of several entries with one key the last one counts. -/
def ofList (entries : List (String × α)) : TextMap α :=
  entries.foldl (fun map entry => map.insert entry.1 entry.2) ∅

/-- Moves a value to a new key. Nothing happens if `source` has no value or `target` has one
already; a key moves onto itself whenever it has a value. -/
def rename? (map : TextMap α) (source target : String) : Option (TextMap α) :=
  if source = target then if map.contains source then some map else none
  else if map.contains target then none
  else (map.get? source).map fun value => (map.erase source).insert target value

theorem lookup_cons_eq (query key : String) (value : α) (rest : List (String × α)) :
    ((key, value) :: rest).lookup query = if query = key then some value else rest.lookup query := by
  by_cases same : query = key
  · simp [same]
  · simp [List.lookup_cons, same, beq_eq_false_iff_ne.mpr same]

theorem lookup_insertEntry (key : String) (value : α) (query : String) :
    ∀ entries : List (String × α), (insertEntry key value entries).lookup query =
      if query = key then some value else entries.lookup query
  | [] => by simp [insertEntry, lookup_cons_eq]
  | (k, v) :: rest => by
      unfold insertEntry
      split
      · rw [lookup_cons_eq]
      · split
        · rename_i hit
          subst hit
          by_cases same : query = key <;> simp [lookup_cons_eq, same]
        · rename_i differs
          rw [lookup_cons_eq, lookup_cons_eq, lookup_insertEntry key value query rest]
          by_cases same : query = key
          · subst same
            simp [differs]
          · simp [same]

theorem get?_insert (map : TextMap α) (key : String) (value : α) (query : String) :
    (map.insert key value).get? query = if query = key then some value else map.get? query :=
  lookup_insertEntry key value query map.entries

theorem get?_filterKeys (map : TextMap α) (keep : String → Bool) (query : String) :
    (map.filterKeys keep).get? query = if keep query then map.get? query else none := by
  show (map.entries.filter _).lookup query = if keep query then map.entries.lookup query else none
  induction map.entries with
  | nil => simp
  | cons entry rest ih =>
      obtain ⟨k, v⟩ := entry
      rw [lookup_cons_eq]
      by_cases kept : keep k
      · rw [List.filter_cons_of_pos (by simpa using kept), lookup_cons_eq, ih]
        by_cases same : query = k
        · simp [same, kept]
        · simp [same]
      · rw [List.filter_cons_of_neg (by simpa using kept), ih]
        by_cases same : query = k
        · simp [same, kept]
        · simp [same]

theorem get?_erase (map : TextMap α) (key query : String) :
    (map.erase key).get? query = if query = key then none else map.get? query := by
  rw [erase, get?_filterKeys]
  by_cases same : query = key <;> simp [same]

@[simp] theorem get?_empty (query : String) : (∅ : TextMap α).get? query = none := rfl

theorem lookup_eq_none_of_below {query : String} :
    ∀ {entries : List (String × α)}, (∀ entry ∈ entries, query < entry.1) →
      entries.lookup query = none
  | [], _ => rfl
  | (k, v) :: rest, below => by
      rw [lookup_cons_eq, if_neg (String.ne_of_lt (below (k, v) List.mem_cons_self))]
      exact lookup_eq_none_of_below fun entry member => below entry (List.mem_cons_of_mem _ member)

theorem eq_of_lookup : ∀ {left right : List (String × α)},
    left.Pairwise (fun a b => a.1 < b.1) → right.Pairwise (fun a b => a.1 < b.1) →
      (∀ query, left.lookup query = right.lookup query) → left = right
  | [], [], _, _, _ => rfl
  | [], (k, v) :: rest, _, _, agree => by simpa [lookup_cons_eq] using agree k
  | (k, v) :: rest, [], _, _, agree => by simpa [lookup_cons_eq] using agree k
  | (k, v) :: left, (k', v') :: right, sortedLeft, sortedRight, agree => by
      obtain ⟨firstLeft, laterLeft⟩ := List.pairwise_cons.mp sortedLeft
      obtain ⟨firstRight, laterRight⟩ := List.pairwise_cons.mp sortedRight
      have same : k = k' := by
        refine String.le_antisymm (fun below => ?_) fun below => ?_
        · have absent := @lookup_eq_none_of_below _ k' ((k, v) :: left)
            fun entry member => (List.mem_cons.mp member).elim (fun e => e ▸ below)
              fun m => String.lt_trans below (firstLeft entry m)
          simp [agree] at absent
        · have absent := @lookup_eq_none_of_below _ k ((k', v') :: right)
            fun entry member => (List.mem_cons.mp member).elim (fun e => e ▸ below)
              fun m => String.lt_trans below (firstRight entry m)
          simp [← agree] at absent
      subst same
      have value : v = v' := by simpa [lookup_cons_eq] using agree k
      have tails : left = right := eq_of_lookup laterLeft laterRight fun query => by
        by_cases here : query = k
        · subst here
          rw [lookup_eq_none_of_below firstLeft, lookup_eq_none_of_below firstRight]
        · simpa [lookup_cons_eq, here] using agree query
      rw [value, tails]

theorem ext_get? {left right : TextMap α} (agree : ∀ query, left.get? query = right.get? query) :
    left = right := by
  obtain ⟨entries, sorted⟩ := left
  obtain ⟨entries', sorted'⟩ := right
  obtain rfl : entries = entries' := eq_of_lookup sorted sorted' agree
  rfl

end TextMap

end StepFlow
