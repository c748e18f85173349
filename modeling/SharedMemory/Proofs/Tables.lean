import SharedMemory.Proofs.Areas

/-!
# Areas as a table

The areas of an address space can be kept in a table by the addresses at which they start. Here
the table is changed entry by entry: unmapping takes out every area that meets the span and
stores what lies before and behind the span, and an area is only ever stored under an address
that is not in use (`Table.insert?`). As long as areas do not overlap no such step fails, and the
table is at every time the table of the areas (`AddressSpace.table`). So nothing is overwritten.
-/

namespace SharedMemory

/-- Areas by the addresses that they are stored under, in ascending order. -/
abbrev Table := List (Nat × Area)

namespace Table

/-- Areas under the addresses at which they start. -/
def ofAreas (areas : List Area) : Table := areas.map fun v => (v.span.start, v)

/-- Stores an area under an address, unless the address is in use. -/
def insert? (key : Nat) (v : Area) : Table → Option Table
  | [] => some [(key, v)]
  | entry :: rest =>
      if key < entry.1 then some ((key, v) :: entry :: rest)
      else if key = entry.1 then none
      else (insert? key v rest).map (entry :: ·)

/-- Stores an area if it is wanted. -/
def insertIf? (wanted : Prop) [Decidable wanted] (key : Nat) (v : Area) (t : Table) : Option Table :=
  if wanted then t.insert? key v else some t

/-- Takes an area out, and stores what lies of it before and behind a span. -/
def cut? (s : Span) (t : Table) (key : Nat) : Option Table :=
  match t.find? (·.1 = key) with
  | none => some t
  | some (_, v) => do
      let cut := v.overlap s
      let t ← insertIf? (v.span.start < cut.start) v.span.start (v.slice v.span.start cut.start)
        (t.filter (·.1 ≠ key))
      insertIf? (cut.stop < v.span.stop) cut.stop (v.slice cut.stop v.span.stop) t

/-- Where the areas are stored that start before the end of a span and end behind its start. -/
def keysMeeting (t : Table) (s : Span) : List Nat :=
  (t.filter fun entry => entry.1 < s.stop ∧ s.start < entry.2.span.stop).map (·.1)

/-- Cuts a span out of every area that meets it. -/
def unmap? (t : Table) (s : Span) : Option Table := (t.keysMeeting s).foldlM (cut? s) t

/-- Stores every area of a table in an empty one. -/
def copy? (t : Table) : Option Table :=
  t.foldlM (fun copied entry => insert? entry.1 (entry.2.slice entry.1 entry.2.span.stop) copied) []

variable {key : Nat} {v : Area} {before after : Table} {areas : List Area} {s : Span}

@[simp] theorem ofAreas_append (areas areas' : List Area) :
    ofAreas (areas ++ areas') = ofAreas areas ++ ofAreas areas' :=
  List.map_append

private theorem key_of_mem_ofAreas {entry : Nat × Area} (member : entry ∈ ofAreas areas) :
    entry.2 ∈ areas ∧ entry.1 = entry.2.span.start := by
  obtain ⟨v, inside, rfl⟩ := List.mem_map.mp member
  exact ⟨inside, rfl⟩

private theorem insert?_append (lower : ∀ entry ∈ before, entry.1 < key)
    (upper : ∀ entry ∈ after, key < entry.1) :
    insert? key v (before ++ after) = some (before ++ (key, v) :: after) := by
  induction before with
  | nil =>
      cases after with
      | nil => rfl
      | cons entry rest =>
          have behind := upper entry (List.mem_cons_self ..)
          exact if_pos behind
  | cons entry rest ih =>
      have passed := lower entry (List.mem_cons_self ..)
      have others := ih fun entry' member => lower entry' (List.mem_cons_of_mem _ member)
      rw [List.cons_append, insert?, if_neg (by omega), if_neg (by omega), others]
      rfl

/-- An area is stored where areas are, if none starts where it does. -/
theorem insert?_ofAreas (unused : ∀ w ∈ areas, w.span.start ≠ v.span.start) :
    insert? v.span.start v (ofAreas areas) = some (ofAreas (AddressSpace.insertArea v areas)) := by
  induction areas with
  | nil => rfl
  | cons w rest ih =>
      have other := unused w (List.mem_cons_self ..)
      have others := ih fun w' member => unused w' (List.mem_cons_of_mem _ member)
      change insert? v.span.start v ((w.span.start, w) :: ofAreas rest) = _
      rw [insert?, AddressSpace.insertArea]
      split
      · rfl
      · rw [if_neg fun same => other same.symm, if_neg fun same => other same.symm, others]
        rfl

private theorem find?_append_cons (other : ∀ entry ∈ before, entry.1 ≠ key) :
    (before ++ (key, v) :: after).find? (·.1 = key) = some (key, v) := by
  have unmatched : before.find? (·.1 = key) = none :=
    List.find?_eq_none.mpr fun entry member => by simpa using other entry member
  simp [List.find?_append, unmatched]

private theorem filter_append_cons (lower : ∀ entry ∈ before, entry.1 ≠ key)
    (upper : ∀ entry ∈ after, entry.1 ≠ key) :
    (before ++ (key, v) :: after).filter (·.1 ≠ key) = before ++ after := by
  have first : before.filter (·.1 ≠ key) = before :=
    List.filter_eq_self.mpr fun entry member => by simpa using lower entry member
  have second : after.filter (·.1 ≠ key) = after :=
    List.filter_eq_self.mpr fun entry member => by simpa using upper entry member
  rw [List.filter_append, List.filter_cons, if_neg (by simp), first, second]

private theorem insertIf?_append {wanted : Prop} [Decidable wanted]
    (lower : ∀ entry ∈ before, entry.1 < key) (upper : wanted → ∀ entry ∈ after, key < entry.1) :
    insertIf? wanted key v (before ++ after) = some
    (before ++ (if wanted then [(key, v)] else []) ++ after) := by
  unfold insertIf?
  split
  case isTrue holds => rw [insert?_append lower (upper holds), List.append_assoc, List.singleton_append]
  case isFalse => rw [List.append_nil]

private theorem ofAreas_remains (v : Area) (s : Span) :
    ofAreas (v.remains s) =
      (if v.span.start < (v.overlap s).start then
        [(v.span.start, v.slice v.span.start (v.overlap s).start)] else []) ++
      (if (v.overlap s).stop < v.span.stop then
        [((v.overlap s).stop, v.slice (v.overlap s).stop v.span.stop)] else []) := by
  rw [Area.remains, ofAreas_append]
  split <;> split <;> rfl

/-- An area between others is replaced by what remains of it: the pieces start where nothing
else does. -/
theorem cut?_append_cons (meets : v.span.Meets s) (nonempty : v.span.start < v.span.stop)
    (lower : ∀ entry ∈ before, entry.1 < v.span.start)
    (upper : ∀ entry ∈ after, v.span.stop ≤ entry.1) :
    cut? s (before ++ (v.span.start, v) :: after) v.span.start =
      some (before ++ ofAreas (v.remains s) ++ after) := by
  have inner : v.span.start < (v.overlap s).stop ∧ (v.overlap s).stop ≤ v.span.stop :=
    ⟨Nat.lt_min.mpr ⟨nonempty, meets.1⟩, Nat.min_le_left _ _⟩
  have found : (before ++ (v.span.start, v) :: after).find? (·.1 = v.span.start) =
      some (v.span.start, v) :=
    find?_append_cons fun entry member => Nat.ne_of_lt (lower entry member)
  have others : (before ++ (v.span.start, v) :: after).filter (·.1 ≠ v.span.start) =
      before ++ after := by
    refine filter_append_cons (fun entry member => Nat.ne_of_lt (lower entry member)) ?_
    intro entry member
    have := upper entry member
    omega
  have left : insertIf? (v.span.start < (v.overlap s).start) v.span.start
      (v.slice v.span.start (v.overlap s).start) (before ++ after) = some _ :=
    insertIf?_append lower fun _ entry member => Nat.lt_of_lt_of_le nonempty (upper entry member)
  simp only [cut?, found, others, left, Option.bind_eq_bind, Option.bind_some]
  rw [insertIf?_append, ofAreas_remains, List.append_assoc before]
  · intro entry member
    rcases List.mem_append.mp member with old | piece
    · exact Nat.lt_trans (lower entry old) inner.1
    · split at piece
      · rw [List.mem_singleton.mp piece]
        exact inner.1
      · cases piece
  · intro late entry member
    exact Nat.lt_of_lt_of_le late (upper entry member)

private theorem keysMeeting_cons (v : Area) (areas : List Area) (s : Span) :
    (ofAreas (v :: areas)).keysMeeting s = if v.span.Meets s then v.span.start ::
    (ofAreas areas).keysMeeting s else (ofAreas areas).keysMeeting s := by
  have same : (v.span.start < s.stop ∧ s.start < v.span.stop) ↔ v.span.Meets s := Iff.rfl
  simp only [keysMeeting, ofAreas, List.map_cons, List.filter_cons, decide_eq_true_eq, same]
  split <;> rfl

/-- Areas are cut one after the other. Before those that are still to be cut stand what remains
of others and areas that do not meet the span. -/
theorem foldlM_cut?_ofAreas (before : Table) (s : Span)
    (ascending : areas.Pairwise fun v w => v.span.stop ≤ w.span.start)
    (nonempty : ∀ v ∈ areas, v.span.start < v.span.stop)
    (lower : ∀ entry ∈ before, ∀ v ∈ areas, entry.1 < v.span.start) :
    ((ofAreas areas).keysMeeting s).foldlM (cut? s) (before ++ ofAreas areas) =
      some (before ++ ofAreas (areas.flatMap (·.without s))) := by
  induction areas generalizing before with
  | nil => rfl
  | cons v rest ih =>
      obtain ⟨first, others⟩ := List.pairwise_cons.mp ascending
      have proper := nonempty v (List.mem_cons_self ..)
      have passed : ∀ entry ∈ before ++ ofAreas (v.without s), ∀ w ∈ rest,
          entry.1 < w.span.start := by
        intro entry member w later
        rcases List.mem_append.mp member with old | new
        · exact lower entry old w (List.mem_cons_of_mem _ later)
        · obtain ⟨piece, key⟩ := key_of_mem_ofAreas new
          have part := Area.part_of_mem_without proper piece
          have := part.nonempty
          have := part.stop
          have := first w later
          omega
      have remaining :=
        ih _ others (fun w member => nonempty w (List.mem_cons_of_mem _ member)) passed
      rw [List.flatMap_cons, ofAreas_append, ← List.append_assoc, ← remaining, keysMeeting_cons]
      by_cases meets : v.span.Meets s
      · have step : cut? s (before ++ ofAreas (v :: rest)) v.span.start =
            some (before ++ ofAreas (v.remains s) ++ ofAreas rest) := by
          refine cut?_append_cons meets proper ?_ ?_
          · exact fun entry member => lower entry member v (List.mem_cons_self ..)
          · intro entry member
            obtain ⟨later, key⟩ := key_of_mem_ofAreas member
            rw [key]
            exact first _ later
        rw [if_pos meets, List.foldlM_cons, step, Area.without, if_pos meets]
        rfl
      · rw [if_neg meets, Area.without, if_neg meets, List.append_assoc]
        rfl

/-- Areas are copied in ascending order, so that each is stored behind the others. -/
theorem foldlM_insert?_ofAreas (before : Table)
    (ascending : areas.Pairwise fun v w => v.span.stop ≤ w.span.start)
    (nonempty : ∀ v ∈ areas, v.span.start < v.span.stop)
    (lower : ∀ entry ∈ before, ∀ v ∈ areas, entry.1 < v.span.start) :
    (ofAreas areas).foldlM (fun copied entry =>
      insert? entry.1 (entry.2.slice entry.1 entry.2.span.stop) copied) before =
      some (before ++ ofAreas areas) := by
  induction areas generalizing before with
  | nil => simp [ofAreas]
  | cons v rest ih =>
      obtain ⟨first, others⟩ := List.pairwise_cons.mp ascending
      have proper := nonempty v (List.mem_cons_self ..)
      have whole : v.slice v.span.start v.span.stop = v := by simp [Area.slice]
      have last : insert? v.span.start v (before ++ []) = some (before ++ [(v.span.start, v)]) :=
        insert?_append (fun entry member => lower entry member v (List.mem_cons_self ..))
          (List.forall_mem_nil _)
      rw [List.append_nil] at last
      have passed : ∀ entry ∈ before ++ ofAreas [v], ∀ w ∈ rest, entry.1 < w.span.start := by
        intro entry member w later
        rcases List.mem_append.mp member with old | new
        · exact lower entry old w (List.mem_cons_of_mem _ later)
        · rw [List.mem_singleton.mp new]
          exact Nat.lt_of_lt_of_le proper (first w later)
      have remaining :=
        ih _ others (fun w member => nonempty w (List.mem_cons_of_mem _ member)) passed
      rw [List.append_assoc] at remaining
      rw [ofAreas, List.map_cons, List.foldlM_cons, whole, last]
      exact remaining

private theorem copy?_ofAreas (ascending : areas.Pairwise fun v w => v.span.stop ≤ w.span.start)
    (nonempty : ∀ v ∈ areas, v.span.start < v.span.stop) :
    copy? (ofAreas areas) = some (ofAreas areas) :=
  foldlM_insert?_ofAreas [] ascending nonempty nofun

end Table

namespace AddressSpace

variable {a : AddressSpace} {v : Area}

/-- The areas of an address space as a table. -/
def table (a : AddressSpace) : Table := .ofAreas a.areas

/-- Spans are cut out of the table, and no area is overwritten. -/
theorem Ordered.unmap?_table (ordered : a.Ordered) (s : Span) :
    a.table.unmap? s = some (a.unmap s).table :=
  Table.foldlM_cut?_ofAreas [] s ordered.ascending ordered.nonempty nofun

/-- Spans are cut out of the table one after the other. -/
theorem Ordered.foldlM_unmap?_table {spans : List Span} (ordered : a.Ordered)
    (upright : ∀ s ∈ spans, s.start ≤ s.stop) :
    spans.foldlM Table.unmap? a.table = some (spans.foldl AddressSpace.unmap a).table := by
  induction spans generalizing a with
  | nil => rfl
  | cons s rest ih =>
      rw [List.foldlM_cons, ordered.unmap?_table, List.foldl_cons]
      exact ih (ordered.unmap (upright s (List.mem_cons_self ..))) fun t member =>
        upright t (List.mem_cons_of_mem _ member)

/-- An area is stored in the table where there is room, and none is overwritten. -/
theorem Ordered.insert?_table (ordered : a.Ordered) (room : a.HasRoom v.span)
    (nonempty : v.span.start < v.span.stop) :
    a.table.insert? v.span.start v = some (a.map v).table :=
  Table.insert?_ofAreas (ordered.start_ne room nonempty)

/-- The table is copied, and no area is overwritten. -/
theorem Ordered.copy?_table (ordered : a.Ordered) : a.table.copy? = some a.table :=
  Table.copy?_ofAreas ordered.ascending ordered.nonempty

end AddressSpace

end SharedMemory
