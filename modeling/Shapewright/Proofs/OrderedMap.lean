import Shapewright.OrderedMap
import Shapewright.Proofs.Text.Distinct

/-!
# Ordered maps as functions

An ordered map is looked at in two ways: as the function `get?` and as the list of its keys.  This
file says what each operation does to both views, so that nothing else has to open a map.

* `Coherent` — a map lists exactly the keys it binds.  Every map that is read from a document or
  built by insertions is coherent, though a document may list a key twice.
* `Tidy` — a coherent map that lists every key once and keeps its bindings in that order.  Two tidy
  maps with the same keys and the same values are equal (`Tidy.ext`).
* `tabulate` — the tidy map with given keys and values.
* `insertAll`, `insertNew` — inserting pairs one after the other: either the last value of a key
  counts, or the first.
-/

set_option autoImplicit false

namespace Shapewright

/-! ## Lists of pairs that stand for a function -/

/-- The pairs of a list are the values of a function; a pair may occur more than once. -/
def ListsFunction {α : Type} (pairs : List (String × α)) (f : String → Option α) : Prop :=
  ∀ key v, (key, v) ∈ pairs ↔ f key = some v

namespace ListsFunction

variable {α : Type} {pairs : List (String × α)} {f : String → Option α}

theorem lookup_eq (h : ListsFunction pairs f) (key : String) : pairs.lookup key = f key := by
  cases hl : pairs.lookup key with
  | none =>
    rw [List.lookup_eq_none_iff] at hl
    cases hf : f key with
    | none => rfl
    | some v => simpa using hl _ ((h key v).2 hf)
  | some v =>
    obtain ⟨front, back, rfl, -⟩ := List.lookup_eq_some_iff.1 hl
    exact ((h key v).1 (by simp)).symm

theorem reverse (h : ListsFunction pairs f) : ListsFunction pairs.reverse f := by
  intro key v
  rw [List.mem_reverse]
  exact h key v

theorem map {β : Type} (h : ListsFunction pairs f) (g : α → β) :
    ListsFunction (pairs.map fun e => (e.1, g e.2)) fun key => (f key).map g := by
  intro key w
  simp only [List.mem_map, Option.map_eq_some_iff, Prod.mk.injEq]
  constructor
  · rintro ⟨⟨k, v⟩, hmem, rfl, rfl⟩
    exact ⟨v, (h k v).1 hmem, rfl⟩
  · rintro ⟨v, hv, rfl⟩
    exact ⟨(key, v), (h key v).2 hv, rfl, rfl⟩

theorem filter (h : ListsFunction pairs f) (p : String → Bool) :
    ListsFunction (pairs.filter fun e => p e.1) fun key => if p key then f key else none := by
  intro key v
  rw [List.mem_filter, h key v]
  by_cases hp : p key = true <;> simp [hp]

end ListsFunction

/-- A function, tabulated over keys that cover its domain. -/
theorem listsFunction_filterMap {α : Type} {keys : List String} {f : String → Option α}
    (h : ∀ k, (f k).isSome → k ∈ keys) :
    ListsFunction (keys.filterMap fun k => (f k).map fun v => (k, v)) f := by
  intro key v
  simp only [List.mem_filterMap, Option.map_eq_some_iff, Prod.mk.injEq]
  constructor
  · rintro ⟨k, -, w, hw, rfl, rfl⟩
    exact hw
  · intro hv
    exact ⟨key, h key (by simp [hv]), v, hv, rfl, rfl⟩

theorem map_fst_filterMap {α : Type} {keys : List String} {f : String → Option α}
    (h : ∀ k ∈ keys, (f k).isSome) :
    (keys.filterMap fun k => (f k).map fun v => (k, v)).map (·.1) = keys := by
  induction keys with
  | nil => simp
  | cons k rest ih =>
    obtain ⟨v, hv⟩ := Option.isSome_iff_exists.1 (h k (by simp))
    rw [List.filterMap_cons_some (b := (k, v)) (by rw [hv]; rfl), List.map_cons,
      ih fun k hk => h k (List.mem_cons_of_mem _ hk)]

namespace OrderedMap

variable {α : Type}

/-! ## One operation at a time -/

theorem lookup_cons_eq_ite (key : String) (v : α) (rest : List (String × α)) (k : String) :
    ((key, v) :: rest).lookup k = if k = key then some v else rest.lookup k := by
  rw [List.lookup_cons]
  by_cases hk : k = key
  · simp [hk]
  · rw [beq_eq_false_iff_ne.2 hk, if_neg hk]

theorem lookup_bind (key : String) (v : α) (bindings : List (String × α)) (k : String) :
    (bind key v bindings).lookup k = if k = key then some v else bindings.lookup k := by
  induction bindings with
  | nil => rw [bind, lookup_cons_eq_ite]
  | cons e rest ih =>
    obtain ⟨key', w⟩ := e
    by_cases hkey : key' = key
    · subst hkey
      by_cases hk : k = key' <;> simp [bind, lookup_cons_eq_ite, hk]
    · by_cases hk : k = key'
      · subst hk
        simp [bind, hkey]
      · simp [bind, lookup_cons_eq_ite, hkey, hk, ih]

@[simp] theorem get?_empty (k : String) : ({} : OrderedMap α).get? k = none := rfl

@[simp] theorem get?_insert (m : OrderedMap α) (key : String) (v : α) (k : String) :
    (m.insert key v).get? k = if k = key then some v else m.get? k :=
  lookup_bind key v m.bindings k

@[simp] theorem get?_erase (m : OrderedMap α) (key k : String) :
    (m.erase key).get? k = if k = key then none else m.get? k := by
  have hfilter : ∀ bindings : List (String × α),
      (bindings.filter fun e => e.1 != key).lookup k = if k = key then none else bindings.lookup k := by
    intro bindings
    induction bindings with
    | nil => simp
    | cons e rest ih =>
      obtain ⟨key', v⟩ := e
      by_cases hkey : key' = key
      · subst hkey
        rw [List.filter_cons_of_neg (by simp), ih, lookup_cons_eq_ite]
        by_cases hk : k = key' <;> simp [hk]
      · rw [List.filter_cons_of_pos (by simpa using hkey), lookup_cons_eq_ite, lookup_cons_eq_ite,
          ih]
        by_cases hk : k = key'
        · subst hk
          simp [hkey]
        · simp [hk]
  by_cases hc : m.contains key = true
  · rw [erase, if_pos hc]
    exact hfilter m.bindings
  · rw [erase, if_neg hc]
    split
    · rename_i hk
      rw [hk]
      simpa [contains] using hc
    · rfl

theorem mem_keys_erase {m : OrderedMap α} {key k : String} (h : k ∈ m.keys) (hk : k ≠ key) :
    k ∈ (m.erase key).keys := by
  rw [erase]
  split
  · exact List.mem_filter.2 ⟨h, by simpa using hk⟩
  · exact h

theorem get?_map {β : Type} (f : α → β) (m : OrderedMap α) (k : String) :
    (m.map f).get? k = (m.get? k).map f := by
  have h : ∀ bindings : List (String × α),
      (bindings.map fun e => (e.1, f e.2)).lookup k = (bindings.lookup k).map f := by
    intro bindings
    induction bindings with
    | nil => rfl
    | cons e rest ih =>
      obtain ⟨key, v⟩ := e
      by_cases hk : k = key <;> simp [lookup_cons_eq_ite, hk, ih]
  exact h m.bindings

/-! ## Maps that list what they bind -/

/-- The listed keys are the bound ones. -/
def Coherent (m : OrderedMap α) : Prop :=
  ∀ key, key ∈ m.keys ↔ (m.get? key).isSome

theorem coherent_empty : ({} : OrderedMap α).Coherent := by
  intro key
  simp

theorem Coherent.insert {m : OrderedMap α} (h : m.Coherent) (key : String) (v : α) :
    (m.insert key v).Coherent := by
  intro k
  have hk := h k
  rw [get?_insert]
  by_cases hc : m.contains key = true
  · by_cases hkk : k = key
    · subst hkk
      simpa [OrderedMap.insert, hc] using hk.2 hc
    · simpa [OrderedMap.insert, hc, hkk] using hk
  · by_cases hkk : k = key
    · simp [OrderedMap.insert, hc, hkk]
    · simpa [OrderedMap.insert, hc, hkk] using hk

/-- A key is taken out wherever it is listed. -/
theorem Coherent.keys_erase {m : OrderedMap α} (h : m.Coherent) (key : String) :
    (m.erase key).keys = m.keys.filter (· != key) := by
  by_cases hc : m.contains key = true
  · rw [erase, if_pos hc]
  · rw [erase, if_neg hc, eq_comm, List.filter_eq_self]
    rintro k hk
    rw [bne_iff_ne]
    rintro rfl
    exact hc ((h k).1 hk)

theorem Coherent.erase {m : OrderedMap α} (h : m.Coherent) (key : String) :
    (m.erase key).Coherent := by
  intro k
  rw [h.keys_erase, get?_erase, List.mem_filter, h k]
  by_cases hk : k = key <;> simp [hk]

/-- Every listed key has a value. -/
theorem Coherent.map_some_values {m : OrderedMap α} (h : m.Coherent) :
    m.values.map some = m.keys.map m.get? := by
  have hall : ∀ keys : List String, (∀ k ∈ keys, (m.get? k).isSome) →
      (keys.filterMap m.get?).map some = keys.map m.get? := by
    intro keys hkeys
    induction keys with
    | nil => rfl
    | cons k keys ih =>
      obtain ⟨v, hv⟩ := Option.isSome_iff_exists.1 (hkeys k (by simp))
      rw [List.filterMap_cons_some hv, List.map_cons, List.map_cons, hv,
        ih fun k' hk' => hkeys k' (by simp [hk'])]
  exact hall m.keys fun k => (h k).1

/-- The values are those of some key. -/
theorem Coherent.mem_values {m : OrderedMap α} (h : m.Coherent) {v : α} :
    v ∈ m.values ↔ ∃ key, m.get? key = some v := by
  rw [values, List.mem_filterMap]
  refine exists_congr fun key => and_iff_right_of_imp fun hget => ?_
  rw [h key, hget]
  rfl

/-- Inserting adds no other value. -/
theorem mem_values_of_insert {m : OrderedMap α} {key : String} {v w : α}
    (h : w ∈ (m.insert key v).values) : w = v ∨ w ∈ m.values := by
  obtain ⟨k, hk, hget⟩ := List.mem_filterMap.1 h
  rw [get?_insert] at hget
  split at hget
  · exact .inl (Option.some.inj hget).symm
  · rename_i hne
    refine .inr (List.mem_filterMap.2 ⟨k, ?_, hget⟩)
    rw [insert] at hk
    split at hk
    · exact hk
    · exact (List.mem_append.1 hk).resolve_right fun hk => hne (List.mem_singleton.1 hk)

theorem isSome_lookup_iff (bindings : List (String × α)) (k : String) :
    (bindings.lookup k).isSome ↔ k ∈ bindings.map (·.1) := by
  induction bindings with
  | nil => simp
  | cons e rest ih =>
    obtain ⟨key, v⟩ := e
    rw [lookup_cons_eq_ite]
    by_cases hk : k = key <;> simp [hk, ih]

/-- The last field of a key counts. -/
theorem get?_ofFields (fields : List (String × α)) (k : String) :
    (ofFields fields).get? k = fields.reverse.lookup k := by
  have h : ∀ (fields bindings : List (String × α)),
      (fields.foldl (fun bs e => bind e.1 e.2 bs) bindings).lookup k =
        (fields.reverse.lookup k).or (bindings.lookup k) := by
    intro fields
    induction fields with
    | nil => intro bindings; rfl
    | cons e rest ih =>
      obtain ⟨key, v⟩ := e
      intro bindings
      rw [List.foldl_cons, ih, lookup_bind, List.reverse_cons, List.lookup_append, Option.or_assoc]
      congr 1
      rw [lookup_cons_eq_ite]
      by_cases hk : k = key <;> simp [hk]
  exact (h fields []).trans (Option.or_none)

theorem mem_bindings_of_get? {m : OrderedMap α} {key : String} {v : α} (h : m.get? key = some v) :
    (key, v) ∈ m.bindings := by
  obtain ⟨front, back, heq, -⟩ := List.lookup_eq_some_iff.1 h
  rw [heq]
  simp

theorem mem_of_mem_bind {key : String} {v : α} {bindings : List (String × α)} {e : String × α}
    (h : e ∈ bind key v bindings) : e = (key, v) ∨ e ∈ bindings := by
  induction bindings with
  | nil => exact .inl (List.mem_singleton.1 h)
  | cons b rest ih =>
    obtain ⟨k, w⟩ := b
    rw [bind] at h
    split at h
    · rename_i hk
      obtain rfl := eq_of_beq hk
      exact (List.mem_cons.1 h).imp_right (List.mem_cons_of_mem _)
    · rcases List.mem_cons.1 h with rfl | h
      · exact .inr List.mem_cons_self
      · exact (ih h).imp_right (List.mem_cons_of_mem _)

/-- A map of fields binds nothing else. -/
theorem mem_of_mem_bindings_ofFields {fields : List (String × α)} {e : String × α}
    (h : e ∈ (ofFields fields).bindings) : e ∈ fields := by
  have hfold : ∀ e ∈ fields.foldl (fun bs f => bind f.1 f.2 bs) [], e ∈ fields := by
    refine List.foldlRecOn (motive := fun bs : List (String × α) => ∀ e ∈ bs, e ∈ fields) fields
      _ (by simp) fun bs hbs f hf e he => ?_
    exact (mem_of_mem_bind he).elim (fun heq => heq ▸ hf) (hbs e)
  exact hfold e h

/-- What a map of fields binds is one of the fields. -/
theorem mem_of_get?_ofFields {fields : List (String × α)} {k : String} {v : α}
    (h : (ofFields fields).get? k = some v) : (k, v) ∈ fields :=
  mem_of_mem_bindings_ofFields (mem_bindings_of_get? h)

theorem get?_ofFields_of_lists {fields : List (String × α)} {f : String → Option α}
    (h : ListsFunction fields f) (k : String) : (ofFields fields).get? k = f k := by
  rw [get?_ofFields, h.reverse.lookup_eq]

theorem coherent_ofFields (fields : List (String × α)) : (ofFields fields).Coherent := by
  intro key
  rw [get?_ofFields, isSome_lookup_iff, List.map_reverse, List.mem_reverse]
  rfl

/-- A coherent map lists the function it stands for. -/
theorem Coherent.listsFunction {m : OrderedMap α} (h : m.Coherent) :
    ListsFunction m.toList m.get? :=
  listsFunction_filterMap fun k => (h k).2

theorem Coherent.map_fst_toList {m : OrderedMap α} (h : m.Coherent) :
    m.toList.map (·.1) = m.keys :=
  map_fst_filterMap fun k => (h k).1

/-! ## Maps that are determined by what they list and bind -/

/-- Every key is listed once, and the bindings stand in the order of the keys. -/
structure Tidy (m : OrderedMap α) : Prop where
  nodup : m.keys.Nodup
  bindings : m.bindings.map (·.1) = m.keys

theorem map_fst_bind (key : String) (v : α) (bindings : List (String × α)) :
    (bind key v bindings).map (·.1)
      = if (bindings.lookup key).isSome then bindings.map (·.1)
        else bindings.map (·.1) ++ [key] := by
  induction bindings with
  | nil => simp [bind]
  | cons e rest ih =>
    obtain ⟨key', w⟩ := e
    by_cases hkey : key' = key
    · simp [bind, hkey]
    · rw [bind, if_neg (by simpa using hkey), List.map_cons, ih, lookup_cons_eq_ite,
        if_neg (Ne.symm hkey)]
      split <;> simp

theorem tidy_empty : ({} : OrderedMap α).Tidy := ⟨by simp, by simp⟩

theorem Tidy.coherent {m : OrderedMap α} (h : m.Tidy) : m.Coherent := by
  intro key
  rw [← h.bindings, get?, isSome_lookup_iff]

theorem Tidy.insert {m : OrderedMap α} (h : m.Tidy) (key : String) (v : α) :
    (m.insert key v).Tidy := by
  have hmem : key ∈ m.keys ↔ m.contains key = true := h.coherent key
  have hfst : (bind key v m.bindings).map (·.1)
      = if m.contains key then m.bindings.map (·.1) else m.bindings.map (·.1) ++ [key] :=
    map_fst_bind key v m.bindings
  by_cases hc : m.contains key = true
  · rw [OrderedMap.insert, if_pos hc]
    rw [if_pos hc] at hfst
    exact ⟨h.nodup, hfst.trans h.bindings⟩
  · rw [OrderedMap.insert, if_neg hc]
    rw [if_neg hc, h.bindings] at hfst
    refine ⟨?_, hfst⟩
    rw [List.nodup_append]
    refine ⟨h.nodup, by simp, fun k hk k' hk' he => hc (hmem.1 ?_)⟩
    rw [← List.mem_singleton.1 hk', ← he]
    exact hk

theorem Tidy.keys_insert {m : OrderedMap α} (h : m.Tidy) (key : String) (v : α) :
    (m.insert key v).keys = Text.firstBy id (m.keys ++ [key]) := by
  rw [Text.firstBy_id_concat, Text.firstBy_id_of_nodup h.nodup, OrderedMap.insert]
  exact if_congr (h.coherent key).symm rfl rfl

/-- The entries of a tidy map are its bindings. -/
theorem Tidy.toList_eq {m : OrderedMap α} (h : m.Tidy) : m.toList = m.bindings := by
  have hlist : ∀ bindings : List (String × α), (bindings.map (·.1)).Nodup →
      ((bindings.map (·.1)).filterMap fun k => (bindings.lookup k).map fun v => (k, v))
        = bindings := by
    intro bindings
    induction bindings with
    | nil => simp
    | cons e rest ih =>
      obtain ⟨key, v⟩ := e
      intro hnd
      rw [List.map_cons, List.nodup_cons] at hnd
      rw [List.map_cons, List.filterMap_cons_some (b := (key, v)) (by simp)]
      congr 1
      -- The head is not looked up again, since its key does not occur in the rest.
      refine Eq.trans (List.filterMap_congr fun k hk => ?_) (ih hnd.2)
      have hne : k ≠ key := fun he => hnd.1 (he ▸ hk)
      rw [lookup_cons_eq_ite, if_neg hne]
  rw [toList, ← h.bindings]
  exact hlist m.bindings (h.bindings ▸ h.nodup)

/-- **A tidy map is its keys and its values.** -/
theorem Tidy.ext {m m' : OrderedMap α} (h : m.Tidy) (h' : m'.Tidy) (hkeys : m.keys = m'.keys)
    (hget : ∀ k, m.get? k = m'.get? k) : m = m' := by
  have hlist : m.toList = m'.toList := by
    rw [toList, toList, hkeys]
    exact List.filterMap_congr fun k _ => by rw [hget]
  rw [h.toList_eq, h'.toList_eq] at hlist
  cases m
  cases m'
  simp_all

/-- The map with given keys and values. Keys without a value are listed, but not bound. -/
def tabulate (keys : List String) (f : String → Option α) : OrderedMap α :=
  { keys, bindings := keys.filterMap fun k => (f k).map fun v => (k, v) }

theorem get?_tabulate (keys : List String) (f : String → Option α) (k : String) :
    (tabulate keys f).get? k = if k ∈ keys then f k else none := by
  induction keys with
  | nil => simp [tabulate, get?]
  | cons key rest ih =>
    rw [tabulate, get?] at ih ⊢
    cases hf : f key with
    | none =>
      rw [List.filterMap_cons_none (by rw [hf]; rfl), ih]
      by_cases hk : k = key
      · simp [hk, hf]
      · simp [hk]
    | some v =>
      rw [List.filterMap_cons_some (b := (key, v)) (by rw [hf]; rfl), lookup_cons_eq_ite, ih]
      by_cases hk : k = key
      · simp [hk, hf]
      · simp [hk]

theorem tidy_tabulate {keys : List String} {f : String → Option α} (hnd : keys.Nodup)
    (hf : ∀ k ∈ keys, (f k).isSome) : (tabulate keys f).Tidy :=
  ⟨hnd, map_fst_filterMap hf⟩

/-- A tidy map is the table of its values. -/
theorem Tidy.eq_tabulate {m : OrderedMap α} (h : m.Tidy) {keys : List String}
    {f : String → Option α} (hkeys : m.keys = keys) (hget : ∀ k, m.get? k = f k) :
    m = tabulate keys f := by
  subst hkeys
  have hsome : ∀ k ∈ m.keys, (f k).isSome := fun k hk => hget k ▸ (h.coherent k).1 hk
  refine h.ext (tidy_tabulate h.nodup hsome) rfl fun k => ?_
  rw [get?_tabulate]
  split
  · exact hget k
  · rename_i hk
    rw [h.coherent, Bool.not_eq_true, Option.isSome_eq_false_iff, Option.isNone_iff_eq_none] at hk
    exact hk

/-! ## Inserting a list of pairs -/

/-- Binds the keys of pairs one after the other; a later value replaces an earlier one. -/
def insertAll (m : OrderedMap α) (pairs : List (String × α)) : OrderedMap α :=
  pairs.foldl (fun acc e => acc.insert e.1 e.2) m

/-- Binds the keys of pairs one after the other, unless they are bound. -/
def insertNew (m : OrderedMap α) (pairs : List (String × α)) : OrderedMap α :=
  pairs.foldl (fun acc e => if acc.contains e.1 then acc else acc.insert e.1 e.2) m

theorem get?_insertAll (m : OrderedMap α) (pairs : List (String × α)) (k : String) :
    (m.insertAll pairs).get? k = (pairs.reverse.lookup k).or (m.get? k) := by
  induction pairs generalizing m with
  | nil => rfl
  | cons e rest ih =>
    obtain ⟨key, v⟩ := e
    rw [insertAll, List.foldl_cons, ← insertAll, ih, get?_insert, List.reverse_cons,
      List.lookup_append, Option.or_assoc]
    congr 1
    rw [lookup_cons_eq_ite]
    by_cases hk : k = key <;> simp [hk]

theorem get?_insertNew (m : OrderedMap α) (pairs : List (String × α)) (k : String) :
    (m.insertNew pairs).get? k = (m.get? k).or (pairs.lookup k) := by
  induction pairs generalizing m with
  | nil => simp [insertNew]
  | cons e rest ih =>
    obtain ⟨key, v⟩ := e
    rw [insertNew, List.foldl_cons, ← insertNew, ih, lookup_cons_eq_ite]
    by_cases hc : m.contains key = true
    · rw [if_pos hc]
      by_cases hk : k = key
      · subst hk
        obtain ⟨w, hw⟩ := Option.isSome_iff_exists.1 hc
        simp [hw]
      · rw [if_neg hk]
    · have hnone : m.get? key = none := by simpa [contains] using hc
      rw [if_neg hc, get?_insert]
      by_cases hk : k = key
      · simp [hk, hnone]
      · rw [if_neg hk, if_neg hk]

theorem get?_insertAll_of_lists (m : OrderedMap α) {pairs : List (String × α)}
    {f : String → Option α} (h : ListsFunction pairs f) (k : String) :
    (m.insertAll pairs).get? k = (f k).or (m.get? k) := by
  rw [get?_insertAll, h.reverse.lookup_eq]

theorem get?_insertNew_of_lists (m : OrderedMap α) {pairs : List (String × α)}
    {f : String → Option α} (h : ListsFunction pairs f) (k : String) :
    (m.insertNew pairs).get? k = (m.get? k).or (f k) := by
  rw [get?_insertNew, h.lookup_eq]

theorem Coherent.insertAll {m : OrderedMap α} (h : m.Coherent) (pairs : List (String × α)) :
    (m.insertAll pairs).Coherent := by
  induction pairs generalizing m with
  | nil => exact h
  | cons e rest ih => exact ih (h.insert e.1 e.2)

theorem Tidy.insertAll {m : OrderedMap α} (h : m.Tidy) (pairs : List (String × α)) :
    (m.insertAll pairs).Tidy
      ∧ (m.insertAll pairs).keys = Text.firstBy id (m.keys ++ pairs.map (·.1)) := by
  induction pairs generalizing m with
  | nil => exact ⟨h, by simp [OrderedMap.insertAll, Text.firstBy_id_of_nodup h.nodup]⟩
  | cons e rest ih =>
    obtain ⟨htidy, hkeys⟩ := ih (h.insert e.1 e.2)
    refine ⟨htidy, hkeys.trans ?_⟩
    rw [h.keys_insert, Text.firstBy_id_append_left, List.map_cons, List.append_assoc,
      List.singleton_append]

theorem values_eq_map_toList (m : OrderedMap α) : m.values = m.toList.map (·.2) := by
  rw [values, toList, List.map_filterMap]
  exact List.filterMap_congr fun k _ => by cases m.get? k <;> rfl

/-- **Pairs with different keys** are all kept. -/
theorem toList_insertAll_of_nodup {pairs : List (String × α)} (h : (pairs.map (·.1)).Nodup) :
    (({} : OrderedMap α).insertAll pairs).toList = pairs := by
  obtain ⟨htidy, hkeys⟩ := (tidy_empty (α := α)).insertAll pairs
  let m : OrderedMap α := ⟨pairs.map (·.1), pairs⟩
  have hm : m.Tidy := ⟨h, rfl⟩
  have hlists : ListsFunction m.bindings m.get? := hm.toList_eq ▸ hm.coherent.listsFunction
  have heq : ({} : OrderedMap α).insertAll pairs = m := by
    refine htidy.ext hm (hkeys.trans ?_) fun k => ?_
    · exact Text.firstBy_id_of_nodup h
    · rw [get?_insertAll, get?_empty, Option.or_none]
      exact hlists.reverse.lookup_eq k
  rw [heq]
  exact hm.toList_eq

/-- Looking up a key among items that are listed with theirs. -/
theorem lookup_map {β : Type} (key : β → String) (f : β → α) (items : List β) (k : String) :
    (items.map fun item => (key item, f item)).lookup k = (items.find? (key · == k)).map f := by
  induction items with
  | nil => rfl
  | cons item items ih =>
    rw [List.map_cons, lookup_cons_eq_ite, List.find?_cons, ih]
    by_cases hk : key item = k
    · simp [hk]
    · rw [if_neg (Ne.symm hk), beq_false_of_ne hk]

theorem Tidy.insertNew {m : OrderedMap α} (h : m.Tidy) (pairs : List (String × α)) :
    (m.insertNew pairs).Tidy
      ∧ (m.insertNew pairs).keys = Text.firstBy id (m.keys ++ pairs.map (·.1)) := by
  induction pairs generalizing m with
  | nil => exact ⟨h, by simp [OrderedMap.insertNew, Text.firstBy_id_of_nodup h.nodup]⟩
  | cons e rest ih =>
    have hstep : Text.firstBy id (m.keys ++ (e :: rest).map (·.1))
        = Text.firstBy id (Text.firstBy id (m.keys ++ [e.1]) ++ rest.map (·.1)) := by
      rw [Text.firstBy_id_append_left, List.map_cons, List.append_assoc, List.singleton_append]
    rw [OrderedMap.insertNew, List.foldl_cons, ← OrderedMap.insertNew, hstep]
    by_cases hc : m.contains e.1 = true
    · have hmem : e.1 ∈ m.keys := (h.coherent e.1).2 hc
      rw [if_pos hc, Text.firstBy_id_concat, if_pos hmem, Text.firstBy_id_of_nodup h.nodup]
      exact ih h
    · rw [if_neg hc, ← h.keys_insert e.1 e.2]
      exact ih (h.insert e.1 e.2)

end OrderedMap
end Shapewright
