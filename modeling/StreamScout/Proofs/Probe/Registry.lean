import Mathlib
import StreamScout.Proofs.Probe.Pool

namespace StreamScout.Probe

inductive Holder where
  | nobody
  | reaper
  | drainer
  deriving DecidableEq, Repr

structure Registry where
  pool : Pool := {}
  holder : Holder := .nobody
  hand : List Nat := []
  registered : List Nat := []
  taken : List Nat := []
  returned : List Nat := []
  deriving DecidableEq, Repr

namespace Registry

inductive Action where
  | dispatch (t : Target)
  | register (i : Nat)
  | registerWhile (gate canStart : Bool) (t : Target)
  | discard
  | partition
  | lock
  | drained
  | receive
  | worker (i : Nat) (m : Move)
  deriving DecidableEq, Repr

-- `hand` holds the units that are dispatched and not yet registered: a unit belongs to whoever dispatched it until it
-- is registered, and several parties may hold units at once. `registered`, `taken` and `returned` only record what
-- happened: registrations in their order, notices received or discarded, what reaping and draining returned.
def step? (start : String) (a : Action) (r : Registry) : Option Registry :=
  match a with
  | .dispatch t => some { r with pool := r.pool.dispatch t, hand := r.hand ++ [r.pool.next] }
  | .register i =>
      if r.holder = .nobody ∧ i ∈ r.hand then
        some { r with pool := r.pool.enroll i, hand := r.hand.erase i, registered := r.registered ++ [i] }
      else none
  | .registerWhile gate canStart t =>
      if r.holder = .nobody then
        match r.pool.registerWhile gate canStart t with
        | (.started, pool) => some { r with pool, registered := r.registered ++ [r.pool.next] }
        | (_, pool) => some { r with pool }
      else none
  | .discard =>
      if r.holder = .nobody then
        some { r with pool := r.pool.clearNotices, holder := .reaper, taken := r.taken ++ r.pool.notices }
      else none
  | .partition =>
      if r.holder = .reaper then
        some { r with
          pool := r.pool.collect.2, holder := .nobody, returned := r.returned ++ [r.pool.collect.1] }
      else none
  | .lock => if r.holder = .nobody then some { r with holder := .drainer } else none
  | .drained =>
      if r.holder = .drainer then
        r.pool.drain?.map fun (n, pool) =>
          { r with pool, holder := .nobody, taken := r.taken ++ r.pool.notices, returned := r.returned ++ [n] }
      else none
  | .receive => r.pool.receive?.map fun pool => { r with pool, taken := r.taken ++ r.pool.notices.take 1 }
  | .worker i m => (r.pool.move? start i m).map fun (pool, _) => { r with pool }

def run? (start : String) : List Action → Registry → Option Registry
  | [], r => some r
  | a :: as, r => (step? start a r).bind (run? start as)

structure Sound (r : Registry) : Prop where
  conserved : (r.registered ++ r.hand).Perm (List.range r.pool.next)
  listed : r.pool.units = r.registered.filter fun i => i ∉ r.pool.observed
  once : r.pool.observed.Nodup
  observed : ∀ i ∈ r.pool.observed, i ∈ r.registered ∧ r.pool.isFinished i = true
  counted : r.returned.sum = r.pool.observed.length
  noticed : ∀ i, r.pool.notices.count i + r.taken.count i = r.pool.posts i

theorem reap_eq_discard_partition (start : String) (r : Registry) (h : r.holder = .nobody) :
    run? start [.discard, .partition] r =
      some { r with
        pool := r.pool.reap.2, taken := r.taken ++ r.pool.notices, returned := r.returned ++ [r.pool.reap.1] } := by
  simp [run?, step?, h, Pool.reap]

section

variable {start : String} {r r' : Registry} {i j : Nat}

theorem dispatch_iff {t : Target} : step? start (.dispatch t) r = some r' ↔
    { r with pool := r.pool.dispatch t, hand := r.hand ++ [r.pool.next] } = r' := by
  simp [step?]

theorem register_iff : step? start (.register i) r = some r' ↔
    (r.holder = .nobody ∧ i ∈ r.hand) ∧
      { r with pool := r.pool.enroll i, hand := r.hand.erase i, registered := r.registered ++ [i] } = r' := by
  simp [step?]

theorem registerWhile_cases {gate canStart : Bool} {t : Target}
    (h : step? start (.registerWhile gate canStart t) r = some r') :
    r.holder = .nobody ∧ ((gate = false ∨ canStart = false) ∧ r' = r ∨
      (gate = true ∧ canStart = true) ∧
        r' = { r with pool := r.pool.register t, registered := r.registered ++ [r.pool.next] }) := by
  obtain ⟨hfree, h⟩ := Option.ite_none_right_eq_some.mp h
  refine ⟨hfree, ?_⟩
  cases gate with
  | false => exact .inl ⟨.inl rfl, (Option.some.inj h).symm⟩
  | true =>
    cases canStart with
    | false => exact .inl ⟨.inr rfl, (Option.some.inj h).symm⟩
    | true => exact .inr ⟨⟨rfl, rfl⟩, (Option.some.inj h).symm⟩

theorem discard_iff : step? start .discard r = some r' ↔
    r.holder = .nobody ∧
      { r with pool := r.pool.clearNotices, holder := .reaper, taken := r.taken ++ r.pool.notices } = r' := by
  simp [step?]

theorem partition_iff : step? start .partition r = some r' ↔
    r.holder = .reaper ∧
      { r with
        pool := r.pool.collect.2, holder := .nobody, returned := r.returned ++ [r.pool.collect.1] } = r' := by
  simp [step?]

theorem lock_iff : step? start .lock r = some r' ↔
    r.holder = .nobody ∧ { r with holder := .drainer } = r' := by
  simp [step?]

theorem drained_iff : step? start .drained r = some r' ↔
    r.holder = .drainer ∧ ∃ n p, r.pool.drain? = some (n, p) ∧
      { r with
        pool := p, holder := .nobody, taken := r.taken ++ r.pool.notices, returned := r.returned ++ [n] } = r' := by
  simp [step?]

theorem receive_iff : step? start .receive r = some r' ↔
    ∃ p, r.pool.receive? = some p ∧ { r with pool := p, taken := r.taken ++ r.pool.notices.take 1 } = r' := by
  simp [step?]

theorem worker_iff {m : Move} : step? start (.worker i m) r = some r' ↔
    ∃ p es, r.pool.move? start i m = some (p, es) ∧ { r with pool := p } = r' := by
  simp [step?]

theorem Sound.nodup (h : Sound r) : (r.registered ++ r.hand).Nodup :=
  h.conserved.nodup_iff.mpr List.nodup_range

theorem Sound.mem_iff (h : Sound r) (i : Nat) : i ∈ r.registered ∨ i ∈ r.hand ↔ i < r.pool.next := by
  have hm := h.conserved.mem_iff (a := i)
  simpa using hm

theorem Sound.not_registered (h : Sound r) (hi : i ∈ r.hand) : i ∉ r.registered := fun hr =>
  (List.nodup_append.mp h.nodup).2.2 i hr i hi rfl

theorem Sound.mem_units (h : Sound r) (i : Nat) :
    i ∈ r.pool.units ↔ i ∈ r.registered ∧ i ∉ r.pool.observed := by
  rw [h.listed, List.mem_filter, decide_eq_true_eq]

theorem sound_empty : Sound {} where
  conserved := .refl _
  listed := rfl
  once := .nil
  observed _ hi := nomatch hi
  counted := rfl
  noticed _ := rfl

theorem sound_dispatch (t : Target) (h : Sound r) :
    Sound { r with pool := r.pool.dispatch t, hand := r.hand ++ [r.pool.next] } where
  conserved := by
    rw [Pool.next_dispatch, List.range_succ, ← List.append_assoc]
    exact h.conserved.append_right [r.pool.next]
  listed := h.listed
  once := h.once
  observed i hi := ⟨(h.observed i hi).1, Pool.finished_dispatch t (h.observed i hi).2⟩
  counted := h.counted
  noticed i := by
    rw [Pool.posts_dispatch]
    exact h.noticed i

theorem sound_register (h : Sound r) (hi : i ∈ r.hand) :
    Sound { r with
      pool := r.pool.enroll i, hand := r.hand.erase i, registered := r.registered ++ [i] } where
  conserved := by
    rw [List.append_assoc]
    exact ((List.perm_cons_erase hi).symm.append_left r.registered).trans h.conserved
  listed := by
    have hnew : i ∉ r.pool.observed := fun ho => h.not_registered hi (h.observed i ho).1
    have hlast : [i].filter (fun j => j ∉ r.pool.observed) = [i] := by simp [hnew]
    change r.pool.units ++ [i] = (r.registered ++ [i]).filter fun j => j ∉ r.pool.observed
    rw [List.filter_append, hlast, h.listed]
  once := h.once
  observed j hj := ⟨List.mem_append_left _ (h.observed j hj).1, (h.observed j hj).2⟩
  counted := h.counted
  noticed := h.noticed

theorem sound_start (t : Target) (h : Sound r) :
    Sound { r with pool := r.pool.register t, registered := r.registered ++ [r.pool.next] } := by
  have hd := sound_dispatch t h
  have hfresh : r.pool.next ∉ r.hand := fun hi => absurd ((h.mem_iff _).mp (.inr hi)) (Nat.lt_irrefl _)
  have he := sound_register hd (List.mem_append_right _ (List.mem_singleton_self _))
  rwa [← Pool.register_eq_enroll, List.erase_append_right _ hfresh, List.erase_cons_head, List.append_nil] at he

theorem sound_discard (h : Sound r) :
    Sound { r with pool := r.pool.clearNotices, holder := .reaper, taken := r.taken ++ r.pool.notices } where
  conserved := h.conserved
  listed := h.listed
  once := h.once
  observed := h.observed
  counted := h.counted
  noticed i := by
    change 0 + (r.taken ++ r.pool.notices).count i = r.pool.posts i
    rw [← h.noticed i, List.count_append]
    omega

theorem sound_hold (h : Sound r) (holder : Holder) : Sound { r with holder } :=
  { h with }

-- What leaves the list goes behind what was observed before; the list is what is left of the registrations.
theorem sound_observe {gone : List Nat} {p : Pool} {n : Nat} (h : Sound r) (hgone : gone.Sublist r.pool.units)
    (hfinished : ∀ i ∈ gone, r.pool.isFinished i = true) (hworkers : p.workers = r.pool.workers)
    (hunits : p.units = r.pool.units.filter fun i => i ∉ gone) (hobserved : p.observed = r.pool.observed ++ gone)
    (hn : n = gone.length) {taken : List Nat} (hnoticed : ∀ i, p.notices.count i + taken.count i = p.posts i) :
    Sound { r with pool := p, holder := .nobody, taken, returned := r.returned ++ [n] } where
  conserved := by
    change (r.registered ++ r.hand).Perm (List.range p.workers.length)
    rw [hworkers]
    exact h.conserved
  listed := by
    change p.units = r.registered.filter fun i => i ∉ p.observed
    rw [hunits, hobserved, h.listed, List.filter_filter]
    exact List.filter_congr fun i _ => by simp [and_comm]
  once := by
    change p.observed.Nodup
    have hunits' : r.pool.units.Nodup := by
      rw [h.listed]
      exact (List.nodup_append.mp h.nodup).1.filter _
    rw [hobserved]
    refine List.nodup_append.mpr ⟨h.once, hunits'.sublist hgone, ?_⟩
    rintro i hi _ hj rfl
    exact ((h.mem_units i).mp (hgone.subset hj)).2 hi
  observed i hi := by
    have hsame : p.isFinished i = r.pool.isFinished i := by simp [Pool.isFinished, Pool.stage?, hworkers]
    change i ∈ p.observed at hi
    change i ∈ r.registered ∧ p.isFinished i = true
    rw [hobserved] at hi
    rw [hsame]
    rcases List.mem_append.mp hi with ho | hg
    · exact h.observed i ho
    · exact ⟨((h.mem_units i).mp (hgone.subset hg)).1, hfinished i hg⟩
  counted := by
    change (r.returned ++ [n]).sum = p.observed.length
    rw [hobserved, List.sum_append, h.counted, List.length_append, hn, List.sum_singleton]
  noticed := hnoticed

theorem sound_collect (h : Sound r) :
    Sound { r with
      pool := r.pool.collect.2, holder := .nobody, returned := r.returned ++ [r.pool.collect.1] } := by
  refine sound_observe (p := r.pool.collect.2) h List.filter_sublist (fun i hi => (List.mem_filter.mp hi).2) rfl ?_ rfl
    rfl h.noticed
  exact List.filter_congr fun i hi => by simp [hi]

theorem sound_drain {n : Nat} {p : Pool} (h : Sound r) (hd : r.pool.drain? = some (n, p)) :
    Sound { r with
      pool := p, holder := .nobody, taken := r.taken ++ r.pool.notices, returned := r.returned ++ [n] } := by
  obtain ⟨hall, rfl, rfl⟩ := Pool.drain_cases hd
  refine sound_observe (p := { r.pool with units := [], observed := r.pool.observed ++ r.pool.units, notices := [] })
    h (.refl _) hall rfl ?_ rfl rfl (sound_discard h).noticed
  exact (List.filter_eq_nil_iff.mpr fun i hi => by simp [hi]).symm

theorem receive_cases {p p' : Pool} (h : p.receive? = some p') :
    ∃ n ns, p.notices = n :: ns ∧ p' = { p with notices := ns } := by
  unfold Pool.receive? at h
  split at h
  next => cases h
  next n ns hq => exact ⟨n, ns, hq, (Option.some.inj h).symm⟩

theorem sound_receive {p : Pool} (h : Sound r) (hp : r.pool.receive? = some p) :
    Sound { r with pool := p, taken := r.taken ++ r.pool.notices.take 1 } := by
  obtain ⟨n, ns, hq, rfl⟩ := receive_cases hp
  refine { h with noticed := fun i => ?_ }
  have hi := h.noticed i
  change ns.count i + (r.taken ++ r.pool.notices.take 1).count i = r.pool.posts i
  rw [hq] at hi ⊢
  rw [← hi, List.take_succ_cons, List.take_zero, List.count_append, List.count_cons, List.count_cons, List.count_nil]
  omega

theorem sound_move {p : Pool} {m : Move} {es : List Effect} (h : Sound r)
    (hm : r.pool.move? start i m = some (p, es)) : Sound { r with pool := p } where
  conserved := by
    change (r.registered ++ r.hand).Perm (List.range p.next)
    rw [Pool.move_next hm]
    exact h.conserved
  listed := by
    change p.units = r.registered.filter fun j => j ∉ p.observed
    rw [Pool.move_units hm, Pool.move_observed hm]
    exact h.listed
  once := by
    change p.observed.Nodup
    rw [Pool.move_observed hm]
    exact h.once
  observed j hj := by
    change j ∈ p.observed at hj
    rw [Pool.move_observed hm] at hj
    exact ⟨(h.observed j hj).1, Pool.finished_move hm (h.observed j hj).2⟩
  counted := by
    change r.returned.sum = p.observed.length
    rw [Pool.move_observed hm]
    exact h.counted
  noticed j := by
    change p.notices.count j + r.taken.count j = p.posts j
    obtain ⟨w, s, -, -, -, heq⟩ := Pool.move_cases hm
    have hn : p.notices = r.pool.noticesAfter i m := by rw [heq]
    rw [Pool.posts_move hm, hn, ← h.noticed j]
    by_cases hp : m = .post
    · subst hp
      rw [Pool.noticesAfter, List.count_append, List.count_singleton]
      simp only [beq_iff_eq, eq_comm (a := i), and_true]
      omega
    · have hq : r.pool.noticesAfter i m = r.pool.notices := by
        cases m <;> first | rfl | exact absurd rfl hp
      simp [hq, hp]

variable {a : Action} {as : List Action}

theorem step_sound (h : Sound r) (hs : step? start a r = some r') : Sound r' := by
  cases a with
  | dispatch t =>
    obtain rfl := dispatch_iff.mp hs
    exact sound_dispatch t h
  | register i =>
    obtain ⟨⟨-, hi⟩, rfl⟩ := register_iff.mp hs
    exact sound_register h hi
  | registerWhile gate canStart t =>
    obtain ⟨-, ⟨-, rfl⟩ | ⟨-, rfl⟩⟩ := registerWhile_cases hs
    · exact h
    · exact sound_start t h
  | discard =>
    obtain ⟨-, rfl⟩ := discard_iff.mp hs
    exact sound_discard h
  | partition =>
    obtain ⟨-, rfl⟩ := partition_iff.mp hs
    exact sound_collect h
  | lock =>
    obtain ⟨-, rfl⟩ := lock_iff.mp hs
    exact sound_hold h .drainer
  | drained =>
    obtain ⟨-, n, p, hp, rfl⟩ := drained_iff.mp hs
    exact sound_drain h hp
  | receive =>
    obtain ⟨p, hp, rfl⟩ := receive_iff.mp hs
    exact sound_receive h hp
  | worker i m =>
    obtain ⟨p, es, hp, rfl⟩ := worker_iff.mp hs
    exact sound_move h hp

theorem run_sound (h : Sound r) (hs : run? start as r = some r') : Sound r' := by
  induction as generalizing r with
  | nil => exact Option.some.inj hs ▸ h
  | cons a as ih =>
    obtain ⟨r₁, h₁, h₂⟩ := Option.bind_eq_some_iff.mp hs
    exact ih (step_sound h h₁) h₂

theorem posts_step (hs : step? start a r = some r') (i : Nat) :
    r'.pool.posts i = r.pool.posts i + if a = .worker i .post then 1 else 0 := by
  cases a with
  | dispatch t =>
    obtain rfl := dispatch_iff.mp hs
    exact Pool.posts_dispatch t r.pool i
  | register j =>
    obtain ⟨-, rfl⟩ := register_iff.mp hs
    rfl
  | registerWhile gate canStart t =>
    obtain ⟨-, ⟨-, rfl⟩ | ⟨-, rfl⟩⟩ := registerWhile_cases hs
    · rfl
    · exact Pool.posts_dispatch t r.pool i
  | discard =>
    obtain ⟨-, rfl⟩ := discard_iff.mp hs
    rfl
  | partition =>
    obtain ⟨-, rfl⟩ := partition_iff.mp hs
    rfl
  | lock =>
    obtain ⟨-, rfl⟩ := lock_iff.mp hs
    rfl
  | drained =>
    obtain ⟨-, n, p, hp, rfl⟩ := drained_iff.mp hs
    obtain ⟨-, -, rfl⟩ := Pool.drain_cases hp
    rfl
  | receive =>
    obtain ⟨p, hp, rfl⟩ := receive_iff.mp hs
    obtain ⟨n, ns, -, rfl⟩ := receive_cases hp
    rfl
  | worker j m =>
    obtain ⟨p, es, hp, rfl⟩ := worker_iff.mp hs
    simpa [eq_comm] using Pool.posts_move hp i

theorem posts_run (hs : run? start as r = some r') (i : Nat) :
    r'.pool.posts i = r.pool.posts i + as.count (.worker i .post) := by
  induction as generalizing r with
  | nil => simp [← Option.some.inj hs]
  | cons a as ih =>
    obtain ⟨r₁, h₁, h₂⟩ := Option.bind_eq_some_iff.mp hs
    rw [ih h₂, posts_step h₁, List.count_cons, Nat.add_assoc, Nat.add_comm (List.count _ as)]
    simp

theorem Sound.units_in_order (h : Sound r) (ho : r.registered.Pairwise (· < ·)) :
    r.pool.units = (List.range r.pool.next).filter fun i => i ∉ r.hand ∧ i ∉ r.pool.observed := by
  rw [h.listed]
  refine (ho.filter _).eq_of_mem_iff (List.pairwise_lt_range.filter _) fun i => ?_
  simp only [List.mem_filter, List.mem_range, decide_eq_true_eq, ← h.mem_iff i]
  constructor
  · rintro ⟨hi, hn⟩
    exact ⟨.inl hi, fun hh => h.not_registered hh hi, hn⟩
  · rintro ⟨hi, hh, hn⟩
    exact ⟨hi.resolve_right hh, hn⟩

-- One who dispatches under the lock registers in the order of dispatch.
theorem step_ordered (h : Sound r) (hh : r.hand = []) (ho : r.registered.Pairwise (· < ·))
    (ha : ∀ t, a ≠ .dispatch t) (hs : step? start a r = some r') :
    r'.hand = [] ∧ r'.registered.Pairwise (· < ·) := by
  cases a with
  | dispatch t => exact absurd rfl (ha t)
  | register i =>
    obtain ⟨⟨-, hi⟩, -⟩ := register_iff.mp hs
    rw [hh] at hi
    exact nomatch hi
  | registerWhile gate canStart t =>
    obtain ⟨-, ⟨-, rfl⟩ | ⟨-, rfl⟩⟩ := registerWhile_cases hs
    · exact ⟨hh, ho⟩
    · refine ⟨hh, List.pairwise_append.mpr ⟨ho, List.pairwise_singleton _ _, fun i hi j hj => ?_⟩⟩
      rw [List.mem_singleton.mp hj]
      exact (h.mem_iff i).mp (.inl hi)
  | discard =>
    obtain ⟨-, rfl⟩ := discard_iff.mp hs
    exact ⟨hh, ho⟩
  | partition =>
    obtain ⟨-, rfl⟩ := partition_iff.mp hs
    exact ⟨hh, ho⟩
  | lock =>
    obtain ⟨-, rfl⟩ := lock_iff.mp hs
    exact ⟨hh, ho⟩
  | drained =>
    obtain ⟨-, n, p, -, rfl⟩ := drained_iff.mp hs
    exact ⟨hh, ho⟩
  | receive =>
    obtain ⟨p, -, rfl⟩ := receive_iff.mp hs
    exact ⟨hh, ho⟩
  | worker i m =>
    obtain ⟨p, es, -, rfl⟩ := worker_iff.mp hs
    exact ⟨hh, ho⟩

theorem run_ordered (h : Sound r) (hh : r.hand = []) (ho : r.registered.Pairwise (· < ·))
    (ha : ∀ t, .dispatch t ∉ as) (hs : run? start as r = some r') : r'.registered.Pairwise (· < ·) := by
  induction as generalizing r with
  | nil => exact Option.some.inj hs ▸ ho
  | cons a as ih =>
    obtain ⟨r₁, h₁, h₂⟩ := Option.bind_eq_some_iff.mp hs
    have hfirst : ∀ t, a ≠ .dispatch t := fun t he => ha t (he ▸ List.mem_cons_self)
    obtain ⟨hh₁, ho₁⟩ := step_ordered h hh ho hfirst h₁
    exact ih (step_sound h h₁) hh₁ ho₁ (fun t ht => ha t (List.mem_cons_of_mem _ ht)) h₂

theorem drained_possible_iff : (∃ r', step? start .drained r = some r') ↔
    r.holder = .drainer ∧ ∀ i ∈ r.pool.units, r.pool.isFinished i = true := by
  constructor
  · rintro ⟨r', hs⟩
    obtain ⟨hheld, n, p, hd, -⟩ := drained_iff.mp hs
    exact ⟨hheld, (Pool.drain_cases hd).1⟩
  · rintro ⟨hheld, hall⟩
    have hd : r.pool.drain? = some (r.pool.units.length,
        { r.pool with units := [], observed := r.pool.observed ++ r.pool.units }.clearNotices) :=
      if_pos (List.all_eq_true.mpr hall)
    exact ⟨_, drained_iff.mpr ⟨hheld, _, _, hd, rfl⟩⟩

structure Conserved (start : String) (as : List Action) (r : Registry) : Prop where
  dispatched : (r.registered ++ r.hand).Perm (List.range r.pool.next)
  list : r.pool.units = r.registered.filter fun i => i ∉ r.pool.observed
  dispatch_order : r.registered.Pairwise (· < ·) →
    r.pool.units = (List.range r.pool.next).filter fun i => i ∉ r.hand ∧ i ∉ r.pool.observed
  -- as the discovery loop does, which never lets go of the lock between the two
  dispatched_under_lock : (∀ t, .dispatch t ∉ as) → r.registered.Pairwise (· < ·)
  observed_once : r.pool.observed.Nodup
  observed_finished : ∀ i ∈ r.pool.observed, i ∈ r.registered ∧ r.pool.isFinished i = true
  returned_observed : r.returned.sum = r.pool.observed.length
  posted_at_most_once : ∀ i, as.count (.worker i .post) ≤ 1
  posted_if_finished : ∀ i, r.pool.isFinished i = true → as.count (.worker i .post) = 1
  notice_kept_or_taken : ∀ i, r.pool.notices.count i + r.taken.count i = as.count (.worker i .post)
  -- no worker waits for anyone, so each of them gets to its notice and to its end
  unfinished_moves : ∀ i < r.pool.next, r.pool.isFinished i = false →
    ∃ m r', step? start (.worker i m) r = some r'
  reaps : r.holder = .reaper → ∃ r', step? start .partition r = some r'
  reaped : ∀ r', step? start .partition r = some r' →
    r'.pool.observed = r.pool.observed ++ r.pool.units.filter r.pool.isFinished ∧
      (r'.pool.units = r.pool.units.filter fun i => !r.pool.isFinished i) ∧
      r'.returned = r.returned ++ [(r.pool.units.filter r.pool.isFinished).length]
  drains : (∃ r', step? start .drained r = some r') ↔
    r.holder = .drainer ∧ ∀ i ∈ r.pool.units, r.pool.isFinished i = true
  drained : ∀ r', step? start .drained r = some r' →
    r'.pool.units = [] ∧ r'.pool.observed = r.pool.observed ++ r.pool.units ∧
      r'.returned = r.returned ++ [r.pool.units.length] ∧ ∀ i ∈ r.pool.units, r'.pool.isFinished i = true
  refused : ∀ gate canStart t r', gate = false ∨ canStart = false →
    (step? start (.registerWhile gate canStart t) r = some r' ↔ r.holder = .nobody ∧ r' = r)

theorem registry_conserves (h : run? start as {} = some r) : Conserved start as r := by
  have hr := run_sound sound_empty h
  have hp : ∀ i, r.pool.posts i = as.count (.worker i .post) := fun i => by
    simpa [Pool.posts, Pool.stage?] using posts_run h i
  constructor
  case dispatched => exact hr.conserved
  case list => exact hr.listed
  case dispatch_order => exact hr.units_in_order
  case dispatched_under_lock => exact fun ha => run_ordered sound_empty rfl .nil ha h
  case observed_once => exact hr.once
  case observed_finished => exact hr.observed
  case returned_observed => exact hr.counted
  case posted_at_most_once => exact fun i => hp i ▸ Pool.posts_le_one r.pool i
  case posted_if_finished => exact fun i hf => hp i ▸ Pool.posts_of_finished hf
  case notice_kept_or_taken => exact fun i => hp i ▸ hr.noticed i
  case unfinished_moves =>
    intro i hi hf
    obtain ⟨m, p, es, hm⟩ := Pool.exists_move start hi hf
    exact ⟨m, _, worker_iff.mpr ⟨p, es, hm, rfl⟩⟩
  case reaps => exact fun hheld => ⟨_, partition_iff.mpr ⟨hheld, rfl⟩⟩
  case reaped =>
    intro r' hs
    obtain ⟨-, rfl⟩ := partition_iff.mp hs
    exact ⟨rfl, rfl, rfl⟩
  case drains => exact drained_possible_iff
  case drained =>
    intro r' hs
    obtain ⟨-, n, p, hd, rfl⟩ := drained_iff.mp hs
    obtain ⟨hall, rfl, rfl⟩ := Pool.drain_cases hd
    exact ⟨rfl, rfl, rfl, hall⟩
  case refused =>
    intro gate canStart t r' hclosed
    constructor
    · intro hs
      obtain ⟨hfree, ⟨-, rfl⟩ | ⟨⟨rfl, rfl⟩, -⟩⟩ := registerWhile_cases hs
      · exact ⟨hfree, rfl⟩
      · exact absurd hclosed (by decide)
    · rintro ⟨hfree, rfl⟩
      rcases hclosed with rfl | rfl
      · exact if_pos hfree
      · cases gate <;> exact if_pos hfree

def studio (name : String) : Target :=
  ⟨name, "local", ⟨10, 0, 0, 5⟩, 8554⟩

-- The first probe crashes between the discarding of the notices and the partition, the second is still running. The
-- third is dispatched before the reaping ends and registered behind the fourth. Draining waits for all that are left.
def crashWhileReaping : List Action :=
  [.registerWhile true true (studio "a"), .registerWhile true true (studio "b"), .worker 0 .call, .worker 1 .call,
    .discard, .worker 0 (.answer .crash), .worker 0 .post, .dispatch (studio "c"), .worker 0 .exit, .partition,
    .registerWhile true true (studio "d"), .register 2]

def letThrough (i : Nat) : List Action :=
  [.worker i .call, .worker i (.answer .error), .worker i .post, .worker i .exit]

def crashAndDrain : List Action :=
  crashWhileReaping ++ [.lock] ++ [.worker 1 (.answer .error), .worker 1 .post, .worker 1 .exit] ++ letThrough 3 ++
    letThrough 2 ++ [.drained]

theorem registry_conserves_crash :
    (∃ r, run? "/by-name/" crashWhileReaping {} = some r ∧ r.pool.units = [1, 3, 2] ∧ r.pool.observed = [0] ∧
      r.returned = [1] ∧ r.pool.notices = [0] ∧ Conserved "/by-name/" crashWhileReaping r) ∧
    ∃ r, run? "/by-name/" crashAndDrain {} = some r ∧ r.pool.units = [] ∧ r.pool.observed = [0, 1, 3, 2] ∧
      r.returned = [1, 3] ∧ r.taken = [0, 1, 3, 2] ∧ Conserved "/by-name/" crashAndDrain r :=
  ⟨⟨_, rfl, rfl, rfl, rfl, rfl, registry_conserves rfl⟩, ⟨_, rfl, rfl, rfl, rfl, rfl, registry_conserves rfl⟩⟩

def registeredBackwards : List Action :=
  [.dispatch (studio "a"), .dispatch (studio "b"), .register 1, .register 0]

theorem dispatch_order_lost :
    ¬ ∀ as r, run? "/by-name/" as {} = some r →
      r.pool.units = (List.range r.pool.next).filter fun i => i ∉ r.hand ∧ i ∉ r.pool.observed := by
  intro h
  have hlist := h registeredBackwards _ rfl
  exact absurd hlist (by decide)

end

end Registry

end StreamScout.Probe
