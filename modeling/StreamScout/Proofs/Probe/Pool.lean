import StreamScout.Probe.Pool

namespace StreamScout.Probe

namespace Stage

def posts : Stage → Nat
  | .notified _ | .finished _ => 1
  | _ => 0

theorem not_finished_of_next {s s' : Stage} {m : Move} (h : s.next? m = some s') :
    s.isFinished = false := by
  cases s with
  | finished e => cases m <;> simp [next?] at h
  | _ => rfl

theorem posts_next {s s' : Stage} {m : Move} (h : s.next? m = some s') :
    s'.posts = s.posts + if m = .post then 1 else 0 := by
  unfold next? at h
  split at h
  all_goals first | cases h; rfl | cases h

theorem exists_next {s : Stage} (h : s.isFinished = false) : ∃ m s', s.next? m = some s' := by
  cases s with
  | spawned => exact ⟨.call, .describing, rfl⟩
  | describing => exact ⟨.answer .error, .leaving .failed, rfl⟩
  | delivering d => exact ⟨.deliver, .leaving .delivered, rfl⟩
  | leaving e => exact ⟨.post, .notified e, rfl⟩
  | notified e => exact ⟨.exit, .finished e, rfl⟩
  | finished e => simp [isFinished, ending?] at h

theorem posts_of_finished {s : Stage} (h : s.isFinished = true) : s.posts = 1 := by
  cases s <;> simp [isFinished, ending?] at h
  rfl

end Stage

namespace Pool

variable {start : String} {p p' : Pool} {i j : Nat} {m : Move} {es : List Effect}

def posts (p : Pool) (i : Nat) : Nat :=
  ((p.stage? i).map Stage.posts).getD 0

def enroll (i : Nat) (p : Pool) : Pool :=
  { p with units := p.units ++ [i] }

theorem register_eq_enroll (t : Target) (p : Pool) :
    p.register t = (p.dispatch t).enroll p.next := rfl

theorem lt_next_of_stage {s : Stage} (h : p.stage? i = some s) : i < p.next := by
  obtain ⟨w, hw, -⟩ := Option.map_eq_some_iff.mp h
  exact (List.getElem?_eq_some_iff.mp hw).1

theorem lt_next_of_finished (h : p.isFinished i = true) : i < p.next := by
  cases hs : p.stage? i with
  | none => simp [isFinished, hs] at h
  | some s => exact lt_next_of_stage hs

theorem posts_of_finished (h : p.isFinished i = true) : p.posts i = 1 := by
  cases hs : p.stage? i with
  | none => simp [isFinished, hs] at h
  | some s =>
    have hf : s.isFinished = true := by simpa [isFinished, hs] using h
    simp [posts, hs, Stage.posts_of_finished hf]

theorem stage_dispatch (t : Target) (p : Pool) (i : Nat) :
    (p.dispatch t).stage? i = if i = p.next then some .spawned else p.stage? i := by
  unfold stage? dispatch next
  by_cases h : i = p.workers.length
  · simp [h]
  · rcases Nat.lt_or_gt_of_ne h with hl | hg
    · simp [h, List.getElem?_append_left hl]
    · simp [h, List.getElem?_eq_none (Nat.le_of_lt hg), List.getElem?_append_right (Nat.le_of_lt hg),
        Nat.sub_ne_zero_of_lt hg]

theorem next_dispatch (t : Target) (p : Pool) : (p.dispatch t).next = p.next + 1 := by
  simp [next, dispatch]

theorem finished_dispatch (t : Target) (h : p.isFinished i = true) :
    (p.dispatch t).isFinished i = true := by
  have hne : i ≠ p.next := Nat.ne_of_lt (lt_next_of_finished h)
  simpa [isFinished, stage_dispatch, hne] using h

theorem posts_dispatch (t : Target) (p : Pool) (i : Nat) : (p.dispatch t).posts i = p.posts i := by
  by_cases h : i = p.next
  · have hn : p.stage? i = none := by simp [stage?, h, next]
    simp [posts, stage_dispatch, h, h ▸ hn, Stage.posts]
  · simp [posts, stage_dispatch, h]

theorem move_cases (h : p.move? start i m = some (p', es)) :
    ∃ w s, p.workers[i]? = some w ∧ w.stage.next? m = some s ∧ es = w.effects start m ∧
      p' = { p with workers := p.workers.set i { w with stage := s }, notices := p.noticesAfter i m } := by
  simp only [move?, Option.bind_eq_bind, Option.bind_eq_some_iff] at h
  obtain ⟨w, hw, s, hs, heq⟩ := h
  obtain ⟨rfl, rfl⟩ := Prod.mk.inj (Option.some.inj heq)
  exact ⟨w, s, hw, hs, rfl, rfl⟩

theorem stage_set {w w' : Worker} (hw : p.workers[i]? = some w) (n : List Nat) (j : Nat) :
    stage? { p with workers := p.workers.set i w', notices := n } j =
      if j = i then some w'.stage else p.stage? j := by
  have hi : i < p.workers.length := (List.getElem?_eq_some_iff.mp hw).1
  by_cases h : j = i
  · subst h; simp [stage?, hi]
  · simp [stage?, List.getElem?_set_ne (Ne.symm h), h]

theorem exists_move (start : String) (hi : i < p.next) (h : p.isFinished i = false) :
    ∃ m p' es, p.move? start i m = some (p', es) := by
  obtain ⟨w, hw⟩ : ∃ w, p.workers[i]? = some w := ⟨_, List.getElem?_eq_getElem hi⟩
  have hf : w.stage.isFinished = false := by simpa [isFinished, stage?, hw] using h
  obtain ⟨m, s, hs⟩ := Stage.exists_next hf
  exact ⟨m, _, _, by simp [move?, hw, hs]; exact ⟨rfl, rfl⟩⟩

theorem posts_le_one (p : Pool) (i : Nat) : p.posts i ≤ 1 := by
  cases hs : p.stage? i with
  | none => simp [posts, hs]
  | some s => cases s <;> simp [posts, hs, Stage.posts]

theorem move_units (h : p.move? start i m = some (p', es)) : p'.units = p.units := by
  obtain ⟨w, s, -, -, -, rfl⟩ := move_cases h
  rfl

theorem move_observed (h : p.move? start i m = some (p', es)) : p'.observed = p.observed := by
  obtain ⟨w, s, -, -, -, rfl⟩ := move_cases h
  rfl

theorem move_next (h : p.move? start i m = some (p', es)) : p'.next = p.next := by
  obtain ⟨w, s, -, -, -, rfl⟩ := move_cases h
  simp [next]

theorem finished_move (h : p.move? start i m = some (p', es)) (hj : p.isFinished j = true) :
    p'.isFinished j = true := by
  obtain ⟨w, s, hw, hs, -, rfl⟩ := move_cases h
  have hne : j ≠ i := by
    rintro rfl
    have hf := Stage.not_finished_of_next hs
    simp [isFinished, stage?, hw, hf] at hj
  simpa [isFinished, stage_set hw, hne] using hj

theorem posts_move (h : p.move? start i m = some (p', es)) (j : Nat) :
    p'.posts j = p.posts j + if j = i ∧ m = .post then 1 else 0 := by
  obtain ⟨w, s, hw, hs, -, rfl⟩ := move_cases h
  by_cases hj : j = i
  · subst hj
    have hp := Stage.posts_next hs
    have hst : p.stage? j = some w.stage := by simp [stage?, hw]
    simp [posts, stage_set hw, hst, hp]
  · simp [posts, stage_set hw, hj]

theorem drain_cases {n : Nat} (h : p.drain? = some (n, p')) :
    (∀ i ∈ p.units, p.isFinished i = true) ∧ n = p.units.length ∧
      p' = { p with units := [], observed := p.observed ++ p.units, notices := [] } := by
  unfold drain? at h
  split at h
  next hall =>
    obtain ⟨rfl, rfl⟩ := Prod.mk.inj (Option.some.inj h)
    exact ⟨List.all_eq_true.mp hall, rfl, rfl⟩
  next => cases h

/-- A worker that is not on the list has finished. -/
def Tracked (p : Pool) : Prop :=
  ∀ i < p.next, i ∈ p.units ∨ p.isFinished i = true

theorem tracked_register (t : Target) (h : p.Tracked) : (p.register t).Tracked := by
  intro i hi
  change i < (p.dispatch t).next at hi
  change i ∈ p.units ++ [p.next] ∨ (p.dispatch t).isFinished i = true
  rw [next_dispatch] at hi
  rcases Nat.lt_succ_iff_lt_or_eq.mp hi with hlt | rfl
  · rcases h i hlt with hu | hf
    · exact .inl (List.mem_append_left _ hu)
    · exact .inr (finished_dispatch t hf)
  · exact .inl (by simp)

theorem tracked_reap (h : p.Tracked) : p.reap.2.Tracked := by
  intro i hi
  change i ∈ p.units.filter (fun j => !p.isFinished j) ∨ p.isFinished i = true
  rcases h i hi with hu | hf
  · cases hf : p.isFinished i with
    | true => exact .inr rfl
    | false => exact .inl (List.mem_filter.mpr ⟨hu, by simp [hf]⟩)
  · exact .inr hf

theorem tracked_drain {n : Nat} (h : p.Tracked) (hd : p.drain? = some (n, p')) : p'.Tracked := by
  obtain ⟨hall, -, rfl⟩ := drain_cases hd
  intro i hi
  rcases h i hi with hu | hf
  · exact .inr (hall i hu)
  · exact .inr hf

theorem tracked_move (h : p.Tracked) (hm : p.move? start i m = some (p', es)) : p'.Tracked := by
  intro j hj
  rw [move_next hm] at hj
  rw [move_units hm]
  rcases h j hj with hu | hf
  · exact .inl hu
  · exact .inr (finished_move hm hf)

theorem finished_of_tracked (h : p.Tracked) (hu : p.units = []) (hi : i < p.next) :
    p.isFinished i = true := by
  simpa [hu] using h i hi

theorem move_of_finished (h : p.isFinished i = true) : p.move? start i m = none := by
  cases hm : p.move? start i m with
  | none => rfl
  | some r =>
    obtain ⟨w, s, hw, hs, -, -⟩ := move_cases hm
    have hf := Stage.not_finished_of_next hs
    simp [isFinished, stage?, hw, hf] at h

end Pool

end StreamScout.Probe
