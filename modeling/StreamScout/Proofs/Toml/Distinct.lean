import StreamScout.Proofs.Keyed
import StreamScout.Toml.Document

namespace StreamScout.Toml

variable {α : Type} {i : Item} {es es' : Entries} {cs rest : List Char} {k : String} {kind : Kind} {d d' : Draft}

inductive Neat : Item → Prop
  | string (s : String) : Neat (.string s)
  | integer (n : Int) : Neat (.integer n)
  | float (text : String) : Neat (.float text)
  | boolean (b : Bool) : Neat (.boolean b)
  | dateTime : Neat .dateTime
  | array (items : List Item) (inner : ∀ i ∈ items, Neat i) : Neat (.array items)
  | table (kind : Kind) (es : Entries) (distinct : Keyed.Distinct es) (inner : ∀ e ∈ es, Neat e.2) :
      Neat (.table kind es)
  | tables (elements : List Item) (inner : ∀ i ∈ elements, Neat i) : Neat (.tables elements)

structure NeatEntries (es : Entries) : Prop where
  distinct : Keyed.Distinct es
  inner : ∀ e ∈ es, Neat e.2

section Entries

theorem neatEntries_nil : NeatEntries [] :=
  ⟨List.nodup_nil, nofun⟩

theorem neat_table_iff : Neat (.table kind es) ↔ NeatEntries es := by
  constructor
  · rintro (⟨⟩ | ⟨⟩)
    rename_i distinct inner
    exact ⟨distinct, inner⟩
  · rintro ⟨distinct, inner⟩
    exact .table kind es distinct inner

theorem neat_tables_iff {elements : List Item} : Neat (.tables elements) ↔ ∀ i ∈ elements, Neat i := by
  constructor
  · rintro ⟨⟩
    assumption
  · exact .tables elements

theorem NeatEntries.put (h : NeatEntries es) (hi : Neat i) : NeatEntries (Keyed.put k i es) := by
  refine ⟨Keyed.distinct_put h.distinct, fun e he => ?_⟩
  rcases Keyed.mem_put he with rfl | he
  · exact hi
  · exact h.inner e he

theorem NeatEntries.drop (h : NeatEntries es) : NeatEntries (Keyed.drop k es) :=
  ⟨Keyed.distinct_drop h.distinct, fun e he => h.inner e (Keyed.mem_drop.mp he).1⟩

theorem NeatEntries.get (h : NeatEntries es) (hk : Keyed.get? k es = some i) : Neat i :=
  h.inner _ (Keyed.mem_of_get? hk)

theorem descend_neat {P : α → Prop} {dotted : Bool} {act : Kind → Entries → Option (Entries × α)}
    (hact : ∀ kind es es' a, NeatEntries es → act kind es = some (es', a) → NeatEntries es' ∧ P a)
    {path : List String} {a : α} (hes : NeatEntries es) (h : descend dotted act path kind es = some (es', a)) :
    NeatEntries es' ∧ P a := by
  induction path generalizing kind es es' with
  | nil => exact hact kind es es' a hes h
  | cons key path ih =>
    rw [descend] at h
    split at h
    next =>
      obtain ⟨⟨inner, b⟩, hinner, heq⟩ := Option.map_eq_some_iff.mp h
      cases heq
      obtain ⟨hneat, hp⟩ := ih neatEntries_nil hinner
      exact ⟨hes.put (neat_table_iff.mpr hneat), hp⟩
    next kind' inner hget =>
      split at h
      next => cases h
      next =>
        obtain ⟨⟨inner', b⟩, hinner, heq⟩ := Option.map_eq_some_iff.mp h
        cases heq
        obtain ⟨hneat, hp⟩ := ih (neat_table_iff.mp (hes.get hget)) hinner
        exact ⟨hes.put (neat_table_iff.mpr hneat), hp⟩
    next elements hget =>
      have helements := neat_tables_iff.mp (hes.get hget)
      split at h
      next kind' inner hlast =>
        obtain ⟨⟨inner', b⟩, hinner, heq⟩ := Option.map_eq_some_iff.mp h
        cases heq
        obtain ⟨hneat, hp⟩ := ih (neat_table_iff.mp (helements _ (List.mem_of_getLast? hlast))) hinner
        refine ⟨hes.put (neat_tables_iff.mpr fun i hi => ?_), hp⟩
        rcases List.mem_append.mp hi with hi | hi
        · exact helements i ((List.dropLast_sublist _).subset hi)
        · rw [List.mem_singleton.mp hi]
          exact neat_table_iff.mpr hneat
      next => cases h
    next => cases h

theorem insert_neat {path : List String} (hes : NeatEntries es) (hi : Neat i)
    (h : insert kind path k i es = some es') : NeatEntries es' := by
  obtain ⟨⟨es', u⟩, hdescend, rfl⟩ := Option.map_eq_some_iff.mp h
  refine (descend_neat (P := fun _ => True) (fun kind inner inner' u hinner hact => ?_) hes hdescend).1
  split at hact
  next => cases hact
  next =>
    split at hact
    next => cases hact
    next =>
      cases hact
      exact ⟨hinner.put hi, trivial⟩

end Entries

section Values

theorem basedInteger_neat {base : Nat} (h : basedInteger base cs = some (i, rest)) : Neat i := by
  simp only [basedInteger, Option.bind_eq_bind, Option.bind_eq_some_iff] at h
  obtain ⟨⟨ds, rest'⟩, -, h⟩ := h
  obtain ⟨-, heq⟩ := Option.ite_none_right_eq_some.mp h
  cases heq
  exact .integer _

theorem specialNumber_neat (h : specialNumber cs = some (i, rest)) : Neat i := by
  simp only [specialNumber] at h
  split at h
  next =>
    cases h
    exact .float _
  next =>
    cases h
    exact .float _
  next => cases h

theorem decimalNumber_neat (h : decimalNumber cs = some (i, rest)) : Neat i := by
  simp only [decimalNumber, Option.bind_eq_bind, Option.bind_eq_some_iff] at h
  obtain ⟨⟨whole, rest₁⟩, -, ⟨fraction, rest₂⟩, -, ⟨exponent, rest₃⟩, -, h⟩ := h
  split at h
  next =>
    obtain ⟨-, heq⟩ := Option.ite_none_right_eq_some.mp h
    cases heq
    exact .integer _
  next =>
    obtain ⟨-, heq⟩ := Option.ite_none_left_eq_some.mp h
    cases heq
    exact .float _

theorem number_neat (h : number cs = some (i, rest)) : Neat i := by
  unfold number at h
  split at h
  next => exact basedInteger_neat h
  next => exact basedInteger_neat h
  next => exact basedInteger_neat h
  next =>
    rcases Option.or_eq_some_iff.mp h with h | ⟨-, h⟩
    · exact specialNumber_neat h
    · exact decimalNumber_neat h

theorem scalar_neat (h : scalar cs = some (i, rest)) : Neat i := by
  unfold scalar at h
  split at h
  next c tail =>
    split at h
    next =>
      obtain ⟨⟨s, r⟩, -, heq⟩ := Option.map_eq_some_iff.mp h
      cases heq
      exact .string s
    next =>
      split at h
      next =>
        unfold boolean at h
        split at h
        next =>
          cases h
          exact .boolean true
        next =>
          cases h
          exact .boolean false
        next => cases h
      next =>
        split at h
        next =>
          obtain ⟨r, -, heq⟩ := Option.map_eq_some_iff.mp h
          cases heq
          exact .dateTime
        next => exact number_neat h
  next => cases h

variable {item : List Char → Option (Item × List Char)} {turns : Nat}

theorem arrayItems_neat (hitem : ∀ cs i rest, item cs = some (i, rest) → Neat i) {items items' : List Item}
    (hitems : ∀ i ∈ items, Neat i) (h : arrayItems item turns items cs = some (items', rest)) :
    ∀ i ∈ items', Neat i := by
  induction turns generalizing items cs with
  | zero => cases h
  | succ turns ih =>
    simp only [arrayItems, Option.bind_eq_bind, Option.bind_eq_some_iff] at h
    obtain ⟨cs₁, -, h⟩ := h
    split at h
    next =>
      cases h
      exact fun i hi => hitems i (List.mem_reverse.mp hi)
    next =>
      obtain ⟨⟨i, rest₁⟩, hi, h⟩ := Option.bind_eq_some_iff.mp h
      obtain ⟨rest₂, -, h⟩ := Option.bind_eq_some_iff.mp h
      have hmore : ∀ j ∈ i :: items, Neat j := List.forall_mem_cons.mpr ⟨hitem _ _ _ hi, hitems⟩
      split at h
      next =>
        cases h
        exact fun j hj => hmore j (List.mem_reverse.mp hj)
      next => exact ih hmore h
      next => cases h

theorem keyValue_neat (hitem : ∀ cs i rest, item cs = some (i, rest) → Neat i) {ks : List String}
    (h : keyValue item cs = some ((ks, i), rest)) : Neat i := by
  simp only [keyValue, Option.bind_eq_bind, Option.bind_eq_some_iff] at h
  obtain ⟨⟨ks', rest₁⟩, -, rest₂, -, ⟨v, rest₃⟩, hv, heq⟩ := h
  cases heq
  exact hitem _ _ _ hv

theorem addKey_neat {ks : List String} (hes : NeatEntries es) (hi : Neat i) (h : addKey kind ks i es = some es') :
    NeatEntries es' := by
  obtain ⟨k, -, h⟩ := Option.bind_eq_some_iff.mp h
  exact insert_neat hes hi h

theorem inlinePairs_neat (hitem : ∀ cs i rest, item cs = some (i, rest) → Neat i) (hes : NeatEntries es)
    (h : inlinePairs item turns es cs = some (es', rest)) : NeatEntries es' := by
  induction turns generalizing es cs with
  | zero => cases h
  | succ turns ih =>
    simp only [inlinePairs, Option.bind_eq_bind, Option.bind_eq_some_iff] at h
    obtain ⟨⟨⟨ks, v⟩, rest₁⟩, hv, es₁, hadd, h⟩ := h
    have hes₁ := addKey_neat hes (keyValue_neat hitem hv) hadd
    split at h
    next =>
      cases h
      exact hes₁
    next => exact ih hes₁ h
    next => cases h

theorem value_neat {depth : Nat} (h : value depth cs = some (i, rest)) : Neat i := by
  induction depth generalizing cs i rest with
  | zero =>
    unfold value at h
    split at h
    next => cases h
    next => cases h
    next => exact scalar_neat h
  | succ depth ih =>
    have hitem : ∀ cs i rest, value depth cs = some (i, rest) → Neat i := fun _ _ _ => ih
    unfold value at h
    split at h
    next =>
      obtain ⟨⟨items, r⟩, hitems, heq⟩ := Option.map_eq_some_iff.mp h
      cases heq
      exact .array items (arrayItems_neat hitem (fun _ hi => absurd hi List.not_mem_nil) hitems)
    next =>
      obtain ⟨⟨es, r⟩, hes, heq⟩ := Option.map_eq_some_iff.mp h
      cases heq
      unfold inlineTable at hes
      split at hes
      next =>
        cases hes
        exact neat_table_iff.mpr neatEntries_nil
      next => exact neat_table_iff.mpr (inlinePairs_neat hitem neatEntries_nil hes)
    next => exact scalar_neat h

end Values

section Documents

structure NeatDraft (d : Draft) : Prop where
  root : NeatEntries d.root
  current : NeatEntries d.current

theorem neatDraft_empty : NeatDraft {} :=
  ⟨neatEntries_nil, neatEntries_nil⟩

theorem place_neat {isArray : Bool} {table : Item} {u : Unit} (ht : Neat table) (hes : NeatEntries es)
    (h : Draft.place isArray table k es = some (es', u)) : NeatEntries es' := by
  unfold Draft.place at h
  split at h
  next =>
    split at h
    next =>
      cases h
      exact hes.put (neat_tables_iff.mpr fun i hi => by rwa [List.mem_singleton.mp hi])
    next elements hget =>
      cases h
      refine hes.put (neat_tables_iff.mpr fun i hi => ?_)
      rcases List.mem_append.mp hi with hi | hi
      · exact neat_tables_iff.mp (hes.get hget) i hi
      · rwa [List.mem_singleton.mp hi]
    next => cases h
  next =>
    cases h
    exact hes.put ht

theorem atParent_neat {P : α → Prop} {act : String → Entries → Option (Entries × α)}
    (hact : ∀ k es es' a, NeatEntries es → act k es = some (es', a) → NeatEntries es' ∧ P a) {path : List String}
    {a : α} (hes : NeatEntries es) (h : Draft.atParent path act es = some (es', a)) : NeatEntries es' ∧ P a := by
  obtain ⟨k, -, h⟩ := Option.bind_eq_some_iff.mp h
  exact descend_neat (fun _ es es' a => hact k es es' a) hes h

theorem close_neat (hd : NeatDraft d) (h : d.close = some es) : NeatEntries es := by
  unfold Draft.close at h
  split at h
  next =>
    cases h
    exact hd.current
  next =>
    obtain ⟨⟨es, u⟩, hparent, rfl⟩ := Option.map_eq_some_iff.mp h
    refine (atParent_neat (P := fun _ => True) (fun k es es' u hes hplace => ?_) hd.root hparent).1
    exact ⟨place_neat (neat_table_iff.mpr hd.current) hes hplace, trivial⟩

theorem openTable_neat {path : List String} (hd : NeatDraft d) (h : d.openTable path = some d') : NeatDraft d' := by
  simp only [Draft.openTable, Option.bind_eq_bind, Option.bind_eq_some_iff] at h
  obtain ⟨es, hclose, ⟨root, current⟩, hparent, heq⟩ := h
  cases heq
  have htake : ∀ k es es' a, NeatEntries es → Draft.takeOver k es = some (es', a) →
      NeatEntries es' ∧ NeatEntries a := by
    intro k es es' a hes htake
    unfold Draft.takeOver at htake
    split at htake
    next =>
      cases htake
      exact ⟨hes, neatEntries_nil⟩
    next inner hget =>
      cases htake
      exact ⟨hes.drop, neat_table_iff.mp (hes.get hget)⟩
    next => cases htake
  obtain ⟨hroot, hcurrent⟩ := atParent_neat htake (close_neat hd hclose) hparent
  exact ⟨hroot, hcurrent⟩

theorem openElement_neat {path : List String} (hd : NeatDraft d) (h : d.openElement path = some d') :
    NeatDraft d' := by
  simp only [Draft.openElement, Option.bind_eq_bind, Option.bind_eq_some_iff] at h
  obtain ⟨es, hclose, ⟨root, u⟩, hparent, heq⟩ := h
  cases heq
  have hreserve : ∀ k es es' (u : Unit), NeatEntries es → Draft.reserve k es = some (es', u) →
      NeatEntries es' ∧ True := by
    intro k es es' u hes hreserve
    unfold Draft.reserve at hreserve
    split at hreserve
    next =>
      cases hreserve
      exact ⟨hes.put (neat_tables_iff.mpr fun _ hi => absurd hi List.not_mem_nil), trivial⟩
    next =>
      cases hreserve
      exact ⟨hes, trivial⟩
    next => cases hreserve
  exact ⟨(atParent_neat hreserve (close_neat hd hclose) hparent).1, neatEntries_nil⟩

theorem pairLine_neat (hd : NeatDraft d) (h : pairLine d cs = some (d', rest)) : NeatDraft d' := by
  simp only [pairLine, Option.bind_eq_bind, Option.bind_eq_some_iff] at h
  obtain ⟨⟨⟨ks, v⟩, rest₁⟩, hv, k, -, d₁, hinsert, rest₂, -, heq⟩ := h
  cases heq
  obtain ⟨current, hcurrent, rfl⟩ := Option.map_eq_some_iff.mp hinsert
  exact ⟨hd.root, insert_neat hd.current (keyValue_neat (fun _ _ _ => value_neat) hv) hcurrent⟩

theorem line_neat (hd : NeatDraft d) (h : line d cs = some (d', rest)) : NeatDraft d' := by
  unfold line at h
  split at h
  next =>
    simp only [elementLine, Option.bind_eq_bind, Option.bind_eq_some_iff] at h
    obtain ⟨⟨ks, rest₁⟩, -, rest₂, -, rest₃, -, d₁, hopen, rest₄, -, heq⟩ := h
    cases heq
    exact openElement_neat hd hopen
  next =>
    simp only [tableLine, Option.bind_eq_bind, Option.bind_eq_some_iff] at h
    obtain ⟨⟨ks, rest₁⟩, -, rest₂, -, d₁, hopen, rest₃, -, heq⟩ := h
    cases heq
    exact openTable_neat hd hopen
  next =>
    obtain ⟨r, -, heq⟩ := Option.map_eq_some_iff.mp h
    cases heq
    exact hd
  next =>
    cases h
    exact hd
  next =>
    cases h
    exact hd
  next => exact pairLine_neat hd h

theorem linesFrom_neat {turns : Nat} (hd : NeatDraft d) (h : linesFrom turns d cs = some d') : NeatDraft d' := by
  induction turns generalizing d cs with
  | zero => cases h
  | succ turns ih =>
    unfold linesFrom at h
    split at h
    next =>
      cases h
      exact hd
    next =>
      obtain ⟨⟨d₁, rest⟩, hline, hrest⟩ := Option.bind_eq_some_iff.mp h
      exact ih (line_neat hd hline) hrest

theorem parse_neat (h : parse cs = some es) : NeatEntries es := by
  simp only [parse, Option.bind_eq_bind, Option.bind_eq_some_iff] at h
  obtain ⟨d, hlines, hclose⟩ := h
  exact close_neat (linesFrom_neat neatDraft_empty hlines) hclose

end Documents

end StreamScout.Toml
