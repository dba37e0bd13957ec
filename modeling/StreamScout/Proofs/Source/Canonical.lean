import StreamScout.Proofs.Json.Strings
import StreamScout.Proofs.Source.History

namespace StreamScout.Source

abbrev Row := String × String × String × String

variable {τ : Type} {xs ys : List (Source τ)} {rows rows' sorted sorted' : List Row} {row row' : Row}
  {rest rest' : List Char}

def rowKey (row : Row) : String × String :=
  (row.1, row.2.1)

def rowLe (row row' : Row) : Bool :=
  keyLe (rowKey row) (rowKey row')

theorem lineOf_append_inj : lineOf row ++ rest = lineOf row' ++ rest' ↔ row = row' ∧ rest = rest' := by
  obtain ⟨name, domain, url, sdp⟩ := row
  obtain ⟨name', domain', url', sdp'⟩ := row'
  simp only [lineOf, Json.object, List.map, Json.joined, List.append_assoc, List.cons_append, List.nil_append,
    List.cons.injEq, Json.string_append_inj, Prod.mk.injEq, true_and]
  tauto

theorem lineOf_ne_nil (row : Row) : lineOf row ≠ [] := by
  simp [lineOf]

theorem flatMap_lineOf_inj : rows.flatMap lineOf = rows'.flatMap lineOf ↔ rows = rows' := by
  induction rows generalizing rows' with
  | nil =>
    cases rows' with
    | nil => simp
    | cons row rows' =>
      constructor
      · intro h
        exact absurd (List.append_eq_nil_iff.mp h.symm).1 (lineOf_ne_nil row)
      · rintro ⟨⟩
  | cons row rows ih =>
    cases rows' with
    | nil => simp [lineOf_ne_nil]
    | cons row' rows' => rw [List.flatMap_cons, List.flatMap_cons, lineOf_append_inj, ih, List.cons.injEq]

theorem digestInput_eq_iff :
    digestInput xs = digestInput ys ↔ (sort xs).map content = (sort ys).map content := by
  have hinput (zs : List (Source τ)) :
      digestInput zs = Utf8.encode (((sort zs).map content).flatMap lineOf) := by
    rw [List.flatMap_map]
    rfl
  rw [hinput, hinput]
  constructor
  · intro h
    exact flatMap_lineOf_inj.mp (Utf8.encode_injective h)
  · intro h
    rw [h]

/-- The same rows in the order of their keys; rows with one key stay in the order that they had. -/
structure StablySorted (rows sorted : List Row) : Prop where
  ordered : sorted.Pairwise fun row row' => rowLe row row' = true
  stable : ∀ key, sorted.filter (rowKey · == key) = rows.filter (rowKey · == key)

theorem mem_of_filter_eq (h : ∀ key, rows.filter (rowKey · == key) = rows'.filter (rowKey · == key))
    (hrow : row ∈ rows) : row ∈ rows' := by
  have hmem : row ∈ rows.filter (rowKey · == rowKey row) := List.mem_filter.mpr ⟨hrow, beq_self_eq_true _⟩
  rw [h] at hmem
  exact (List.mem_filter.mp hmem).1

theorem rowLe_head (h : (row :: rows).Pairwise fun row row' => rowLe row row' = true)
    (hmem : row' ∈ row :: rows) : rowLe row row' = true := by
  rcases List.mem_cons.mp hmem with rfl | htail
  · exact keyLe_refl _
  · exact (List.pairwise_cons.mp h).1 row' htail

theorem filter_tail_eq {key : String × String}
    (h : (row :: rows).filter (rowKey · == key) = (row :: rows').filter (rowKey · == key)) :
    rows.filter (rowKey · == key) = rows'.filter (rowKey · == key) := by
  rw [List.filter_cons, List.filter_cons] at h
  split at h
  · exact (List.cons.inj h).2
  · exact h

theorem eq_of_filter_eq (hrows : rows.Pairwise fun row row' => rowLe row row' = true)
    (hrows' : rows'.Pairwise fun row row' => rowLe row row' = true)
    (h : ∀ key, rows.filter (rowKey · == key) = rows'.filter (rowKey · == key)) : rows = rows' := by
  induction rows generalizing rows' with
  | nil =>
    refine (List.eq_nil_iff_forall_not_mem.mpr fun row hrow => ?_).symm
    exact List.not_mem_nil (mem_of_filter_eq (fun key => (h key).symm) hrow)
  | cons row rows ih =>
    cases rows' with
    | nil => exact absurd (mem_of_filter_eq h (List.mem_cons_self ..)) List.not_mem_nil
    | cons row' rows' =>
      -- the first row of either list occurs in the other, so both have the least key
      have hle := rowLe_head hrows (mem_of_filter_eq (fun key => (h key).symm) (List.mem_cons_self ..))
      have hle' := rowLe_head hrows' (mem_of_filter_eq h (List.mem_cons_self ..))
      have hkey := keyLe_antisymm hle hle'
      have hfirst := h (rowKey row)
      rw [List.filter_cons_of_pos (by simp), List.filter_cons_of_pos (by simp [hkey])] at hfirst
      obtain ⟨rfl, -⟩ := List.cons.inj hfirst
      have htail := ih (List.pairwise_cons.mp hrows).2 (List.pairwise_cons.mp hrows').2 fun key =>
        filter_tail_eq (h key)
      rw [htail]

theorem StablySorted.unique (h : StablySorted rows sorted) (h' : StablySorted rows sorted') : sorted = sorted' :=
  eq_of_filter_eq h.ordered h'.ordered fun key => (h.stable key).trans (h'.stable key).symm

theorem StablySorted.mem_iff (h : StablySorted rows sorted) : row ∈ sorted ↔ row ∈ rows :=
  ⟨mem_of_filter_eq h.stable, mem_of_filter_eq fun key => (h.stable key).symm⟩

theorem stablySorted_mergeSort (rows : List Row) : StablySorted rows (rows.mergeSort rowLe) := by
  have htrans : ∀ row row' row'' : Row, rowLe row row' = true → rowLe row' row'' = true → rowLe row row'' = true :=
    fun _ _ _ h h' => keyLe_trans h h'
  have htotal : ∀ row row' : Row, (rowLe row row' || rowLe row' row) = true :=
    fun row row' => keyLe_total (rowKey row) (rowKey row')
  refine ⟨List.pairwise_mergeSort htrans htotal rows, fun key => ?_⟩
  -- rows with one key are in order already, and sorting keeps what is in order
  have hone : (rows.filter (rowKey · == key)).Pairwise fun row row' => rowLe row row' = true := by
    refine List.pairwise_of_forall_mem_list fun row hrow row' hrow' => ?_
    rw [rowLe, beq_iff_eq.mp (List.mem_filter.mp hrow).2, beq_iff_eq.mp (List.mem_filter.mp hrow').2]
    exact keyLe_refl key
  have hsub := (List.sublist_mergeSort htrans htotal hone List.filter_sublist).filter (rowKey · == key)
  rw [List.filter_filter] at hsub
  simp only [Bool.and_self] at hsub
  have hperm := (List.mergeSort_perm rows rowLe).filter (rowKey · == key)
  exact (hsub.eq_of_length hperm.length_eq.symm).symm

theorem stablySorted_sort (xs : List (Source τ)) : StablySorted (xs.map content) ((sort xs).map content) := by
  rw [sort_content]
  exact stablySorted_mergeSort (xs.map content)

theorem sort_eq_iff : (sort xs).map content = (sort ys).map content ↔
    ∃ rows, StablySorted (xs.map content) rows ∧ StablySorted (ys.map content) rows := by
  constructor
  · intro h
    exact ⟨_, stablySorted_sort xs, h ▸ stablySorted_sort ys⟩
  · rintro ⟨rows, hx, hy⟩
    rw [(stablySorted_sort xs).unique hx, (stablySorted_sort ys).unique hy]

theorem nodup_rowKeys (h : (xs.map key).Nodup) : ((xs.map content).map rowKey).Nodup := by
  rw [List.map_map]
  exact h

theorem sort_eq_of_nodup (hx : (xs.map key).Nodup) (hy : (ys.map key).Nodup)
    (h : ∀ row, row ∈ xs.map content ↔ row ∈ ys.map content) :
    (sort xs).map content = (sort ys).map content := by
  have hcontents : (xs.map content).Perm (ys.map content) :=
    (List.perm_ext_iff_of_nodup ((nodup_rowKeys hx).of_map rowKey) ((nodup_rowKeys hy).of_map rowKey)).mpr h
  have hsorted := ((List.mergeSort_perm xs le).map content).trans
    (hcontents.trans ((List.mergeSort_perm ys le).map content).symm)
  refine hsorted.eq_of_pairwise ?_ (stablySorted_sort xs).ordered (stablySorted_sort ys).ordered
  intro row row' hrow hrow' hle hle'
  have hmem : row ∈ ys.map content := (h row).mp ((stablySorted_sort xs).mem_iff.mp hrow)
  have hmem' : row' ∈ ys.map content := (stablySorted_sort ys).mem_iff.mp hrow'
  exact List.inj_on_of_nodup_map (nodup_rowKeys hy) hmem hmem' (keyLe_antisymm hle hle')

theorem digestInput_eq_iff_of_nodup (hx : (xs.map key).Nodup) (hy : (ys.map key).Nodup) :
    digestInput xs = digestInput ys ↔ ∀ row, row ∈ xs.map content ↔ row ∈ ys.map content := by
  rw [digestInput_eq_iff]
  constructor
  · intro h row
    rw [← (stablySorted_sort xs).mem_iff, h, (stablySorted_sort ys).mem_iff]
  · intro h
    exact sort_eq_of_nodup hx hy h

theorem contents_eq_iff {t t' : Table τ} : t.contents = t'.contents ↔
    ∀ row, row ∈ t.entries.map content ↔ row ∈ t'.entries.map content := by
  simp only [Set.ext_iff, Table.mem_contents, List.mem_map]

theorem digestInput_canonical (xs ys : List (Source τ)) (calls calls' : List (Call τ)) :
    (digestInput xs = digestInput ys ↔
      ∃ rows, StablySorted (xs.map content) rows ∧ StablySorted (ys.map content) rows) ∧
    ((xs.map key).Nodup → (ys.map key).Nodup →
      (digestInput xs = digestInput ys ↔ ∀ row, row ∈ xs.map content ↔ row ∈ ys.map content)) ∧
    (digestInput (Table.after calls).entries = digestInput (Table.after calls').entries ↔
      (Table.after calls).contents = (Table.after calls').contents) := by
  refine ⟨?_, digestInput_eq_iff_of_nodup, ?_⟩
  · rw [digestInput_eq_iff, sort_eq_iff]
  · rw [contents_eq_iff]
    exact digestInput_eq_iff_of_nodup (held_after calls).keys (held_after calls').keys

theorem digestInput_canonical_quotes :
    let forged : Source Nat := ⟨"a\",\"domain\":\"b", "c", "rtsp://x", "v=0", none, 1, 1⟩
    let later : Source Nat := ⟨"a\",\"domain\":\"b", "c", "rtsp://x", "v=0", some "A", 2, 7⟩
    let split : Source Nat := ⟨"a", "b\",\"domain\":\"c", "rtsp://x", "v=0", none, 1, 1⟩
    let other : Source Nat := ⟨"d\n", "c", "rtsp://y", "v=0", none, 3, 4⟩
    (([forged, other].map key).Nodup ∧ ([other, later].map key).Nodup ∧ ([split, other].map key).Nodup) ∧
      digestInput [forged, other] = digestInput [other, later] ∧
      digestInput [forged, other] ≠ digestInput [split, other] := by
  intro forged later split other
  have hforged : ([forged, other].map key).Nodup := by decide
  have hlater : ([other, later].map key).Nodup := by decide
  have hsplit : ([split, other].map key).Nodup := by decide
  have hsame := (digestInput_canonical [forged, other] [other, later] [] []).2.1 hforged hlater
  have hdiff := (digestInput_canonical [forged, other] [split, other] [] []).2.1 hforged hsplit
  refine ⟨⟨hforged, hlater, hsplit⟩, hsame.mpr fun row => ?_, fun heq => ?_⟩
  · have hcontent : forged.content = later.content := rfl
    simp [hcontent, or_comm]
  · have hmem : forged.content ∈ [split, other].map content := (hdiff.mp heq forged.content).mp (by simp)
    exact absurd hmem (by decide)

end StreamScout.Source
