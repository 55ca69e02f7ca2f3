import TextTemplate.Toml.Value

/-!
Putting tables together, entry by entry.

A name stands for one thing.  A table may be filled from several places only as far as it came about by
the way: a header may claim a table that was implied by another header, and dotted keys may go on with a
table that dotted keys began.

* `Table.nodup_enter`, `Table.nodup_openTable`, `Table.nodup_openNext`: names that are apart stay apart.
-/

namespace TextTemplate.Toml

/-- A key of one or more parts. -/
structure Path where
  first : String
  rest : List String
deriving DecidableEq, Repr

/-- All parts but the last. -/
def Path.parents (p : Path) : List String := (p.first :: p.rest).dropLast

def Path.last (p : Path) : String := p.rest.getLastD p.first

def Path.parts (p : Path) : List String := p.first :: p.rest

namespace Table

/-- Replaces the value under a key, or adds one at the end. -/
def update (key : String) (f : Option Value → Option Value) : Entries → Option Entries
  | [] => do
    let v ← f none
    pure [(key, v)]
  | (k, v) :: entries =>
    if k = key then do
      let v ← f (some v)
      pure ((k, v) :: entries)
    else do
      let entries ← update key f entries
      pure ((k, v) :: entries)

/-- Changes the table at the end of a path.  Tables that are missing on the way are made; the last table
stands for a row of them.  Dotted keys pass only through tables that came about by the way. -/
def within (dotted : Bool) (change : Origin → Entries → Option Entries) :
    List String → Origin → Entries → Option Entries
  | [], origin, entries => change origin entries
  | key :: path, _, entries => update key (fun
    | none =>
      let origin := if dotted then Origin.dotted else Origin.implied
      (within dotted change path origin []).map (.table origin)
    | some (.table origin inner) =>
      if dotted && origin = .header then none
      else (within dotted change path origin inner).map (.table origin)
    | some (.tables items) =>
      match items.getLast? with
      | none => none
      | some last => (within dotted change path .header last).map fun last =>
        .tables (items.dropLast ++ [last])
    | some _ => none) entries

/-- Adds a new entry at the end. -/
def add (key : String) (v : Value) (entries : Entries) : Option Entries :=
  match entries.lookup key with
  | some _ => none
  | none => some (entries ++ [(key, v)])

/-- Adds an entry under a key that may be dotted.  A dotted key fills tables of dotted keys only, a plain
one none of them. -/
def enter (path : Path) (v : Value) (origin : Origin) (entries : Entries) : Option Entries :=
  within true (fun origin entries =>
    if origin = .dotted ↔ path.parents = [] then none else add path.last v entries)
    path.parents origin entries

/-- The table of the entries between two braces. -/
def ofPairs? (pairs : List (Path × Value)) : Option Entries :=
  pairs.foldlM (fun entries (path, v) => enter path v .header entries) []

/-- Opens a table by its header, at the end of the table around it. -/
def openTable (path : Path) (entries : Entries) : Option Entries :=
  within false (fun _ entries =>
    let others := entries.filter fun entry => entry.1 != path.last
    match entries.lookup path.last with
    | none => some (others ++ [(path.last, .table .header [])])
    | some (.table .implied inner) => some (others ++ [(path.last, .table .header inner)])
    | some _ => none)
    path.parents .header entries

/-- Opens one more table of a row. -/
def openNext (path : Path) (entries : Entries) : Option Entries :=
  within false (fun _ => update path.last fun
    | none => some (.tables [[]])
    | some (.tables items) => some (.tables (items ++ [[]]))
    | some _ => none)
    path.parents .header entries

/-! ### Names -/

theorem nodup_concat {key : String} {names : List String} (fresh : key ∉ names) (distinct : names.Nodup) :
    (names ++ [key]).Nodup := by
  refine List.nodup_append.2 ⟨distinct, by simp, ?_⟩
  rintro name mem other last rfl
  exact fresh (List.mem_singleton.1 last ▸ mem)

/-- An update keeps all names, and adds its own at the end if it is new. -/
theorem names_update {key : String} {f : Option Value → Option Value} {entries entries' : Entries}
    (updated : update key f entries = some entries') :
    entries'.map Prod.fst = entries.map Prod.fst ∨
      key ∉ entries.map Prod.fst ∧ entries'.map Prod.fst = entries.map Prod.fst ++ [key] := by
  induction entries generalizing entries' with
  | nil =>
    obtain ⟨v, -, made⟩ := Option.bind_eq_some_iff.1 updated
    cases made
    exact .inr ⟨List.not_mem_nil, rfl⟩
  | cons entry entries ih =>
    obtain ⟨k, v⟩ := entry
    rw [update] at updated
    by_cases same : k = key
    · rw [if_pos same] at updated
      obtain ⟨v', -, made⟩ := Option.bind_eq_some_iff.1 updated
      cases made
      exact .inl rfl
    · rw [if_neg same] at updated
      obtain ⟨rest, later, made⟩ := Option.bind_eq_some_iff.1 updated
      cases made
      rcases ih later with kept | ⟨fresh, added⟩
      · exact .inl (congrArg (k :: ·) kept)
      · exact .inr ⟨List.not_mem_cons_of_ne_of_not_mem (Ne.symm same) fresh, congrArg (k :: ·) added⟩

theorem nodup_update {key : String} {f : Option Value → Option Value} {entries entries' : Entries}
    (updated : update key f entries = some entries') (distinct : (entries.map Prod.fst).Nodup) :
    (entries'.map Prod.fst).Nodup := by
  rcases names_update updated with kept | ⟨fresh, added⟩
  · rwa [kept]
  · rw [added]
    exact nodup_concat fresh distinct

/-- Changing a table somewhere within keeps the names apart, if the change itself does. -/
theorem nodup_within {dotted : Bool} {change : Origin → Entries → Option Entries} {path : List String}
    {origin : Origin} {entries entries' : Entries}
    (kept : ∀ origin entries entries', change origin entries = some entries' →
      (entries.map Prod.fst).Nodup → (entries'.map Prod.fst).Nodup)
    (changed : within dotted change path origin entries = some entries')
    (distinct : (entries.map Prod.fst).Nodup) : (entries'.map Prod.fst).Nodup := by
  cases path with
  | nil => exact kept _ _ _ changed distinct
  | cons key path => exact nodup_update changed distinct

/-- A new name is put at the end. -/
theorem nodup_append {key : String} {entries : Entries} (fresh : key ∉ entries.map Prod.fst)
    (distinct : (entries.map Prod.fst).Nodup) (v : Value) : ((entries ++ [(key, v)]).map Prod.fst).Nodup := by
  rw [List.map_append, List.map_singleton]
  exact nodup_concat fresh distinct

theorem nodup_add {key : String} {v : Value} {entries entries' : Entries}
    (added : add key v entries = some entries') (distinct : (entries.map Prod.fst).Nodup) :
    (entries'.map Prod.fst).Nodup := by
  unfold add at added
  split at added
  · cases added
  · rename_i absent
    cases added
    have fresh : key ∉ entries.map Prod.fst := by
      rintro mem
      obtain ⟨entry, listed, rfl⟩ := List.mem_map.1 mem
      have other := List.lookup_eq_none_iff.1 absent entry listed
      exact absurd rfl (bne_iff_ne.1 other)
    exact nodup_append fresh distinct v

theorem nodup_enter {path : Path} {v : Value} {origin : Origin} {entries entries' : Entries}
    (entered : enter path v origin entries = some entries') (distinct : (entries.map Prod.fst).Nodup) :
    (entries'.map Prod.fst).Nodup := by
  refine nodup_within ?_ entered distinct
  intro origin entries entries' added distinct
  split at added
  · cases added
  · exact nodup_add added distinct

theorem nodup_openTable {path : Path} {entries entries' : Entries}
    (opened : openTable path entries = some entries') (distinct : (entries.map Prod.fst).Nodup) :
    (entries'.map Prod.fst).Nodup := by
  refine nodup_within ?_ opened distinct
  intro _ entries entries' changed distinct
  -- The table moves to the end, away from where it stood before.
  have moved (v : Value) :
      ((entries.filter (fun entry => entry.1 != path.last) ++ [(path.last, v)]).map Prod.fst).Nodup := by
    have fresh : path.last ∉ (entries.filter fun entry => entry.1 != path.last).map Prod.fst := by
      intro mem
      obtain ⟨entry, listed, named⟩ := List.mem_map.1 mem
      exact bne_iff_ne.1 (List.mem_filter.1 listed).2 named
    have others : ((entries.filter fun entry => entry.1 != path.last).map Prod.fst).Nodup :=
      distinct.sublist (List.filter_sublist.map Prod.fst)
    exact nodup_append fresh others v
  split at changed
  · cases changed
    exact moved _
  · cases changed
    exact moved _
  · cases changed

theorem nodup_openNext {path : Path} {entries entries' : Entries}
    (opened : openNext path entries = some entries') (distinct : (entries.map Prod.fst).Nodup) :
    (entries'.map Prod.fst).Nodup := by
  refine nodup_within ?_ opened distinct
  intro _ entries entries' changed distinct
  exact nodup_update changed distinct

end Table
end TextTemplate.Toml
