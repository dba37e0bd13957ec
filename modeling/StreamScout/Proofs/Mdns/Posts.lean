import StreamScout.Proofs.Mdns.Forwarding

namespace StreamScout.Mdns

open StreamScout.Resolve (Table)
open StreamScout.Service

variable {η : Type} {i ty f : String} {a : Announcement} {as : List Announcement} {t : Table η} {h : η}
  {o : Resolution} {block : List (Event η)}

def heeded (as : List Announcement) : List Announcement :=
  as.takeWhile (· ≠ .searchStopped)

def Announcement.change? (i : String) : Announcement → Option BrowseEvent
  | .found ty f => (Record.ofFullname? f ty i).map .new
  | .removed ty f => (Record.ofFullname? f ty i).map .remove
  | _ => none

def change? : Event η → Option BrowseEvent
  | .browse (.new r) => some (.new r)
  | .browse (.remove r) => some (.remove r)
  | _ => none

inductive Settles (i : String) : Announcement → String → Resolution → Prop
  | found (info : Instance) (r : Record) (e : Endpoint)
      (accepted : Record.ofFullname? info.fullname info.typeDomain i = some r) (reached : info.endpoint? r = some e) :
      Settles i (.resolved info) info.fullname (.found e)
  | nowhere (info : Instance) (r : Record)
      (accepted : Record.ofFullname? info.fullname info.typeDomain i = some r) (nowhere : info.endpoint? r = none) :
      Settles i (.resolved info) info.fullname (.failure noAddress)
  | removed (ty f : String) : Settles i (.removed ty f) f (.failure removedFirst)

def Waits (i : String) (t : Table η) (before : List Announcement) (f : String) (h : η) : Prop :=
  t.pending.get? f = some h ∧ ∀ a ∈ before, ∀ o, ¬ Settles i a f o

/-- The events of one announcement: an outcome exactly for the resolver that it settles, then the change. -/
def IsBlock (i : String) (parked : String → η → Prop) (a : Announcement) (block : List (Event η)) : Prop :=
  ∃ outcome : Option (η × Resolution),
    block = outcome.toList.map (fun x => .resolved x.1 x.2) ++ (a.change? i).toList.map .browse ∧
      ∀ h o, outcome = some (h, o) ↔ ∃ f, Settles i a f o ∧ parked f h

section Block

variable {parked parked' : String → η → Prop}

theorem IsBlock.congr (hiff : ∀ f h, parked f h ↔ parked' f h) (hb : IsBlock i parked a block) :
    IsBlock i parked' a block := by
  obtain ⟨outcome, hposts, hout⟩ := hb
  refine ⟨outcome, hposts, fun h o => ?_⟩
  simp only [hout, hiff]

theorem IsBlock.changes (hb : IsBlock i parked a block) : block.filterMap change? = (a.change? i).toList := by
  obtain ⟨outcome, rfl, -⟩ := hb
  have hnone : (outcome.toList.map fun x => (.resolved x.1 x.2 : Event η)).filterMap change? = [] := by
    cases outcome <;> rfl
  rw [List.filterMap_append, hnone, List.nil_append]
  cases a with
  | found ty f => cases hr : Record.ofFullname? f ty i <;> simp [Announcement.change?, change?, hr]
  | removed ty f => cases hr : Record.ofFullname? f ty i <;> simp [Announcement.change?, change?, hr]
  | _ => rfl

theorem isBlock_plain (hs : ∀ f o, ¬ Settles i a f o) : IsBlock i parked a ((a.change? i).toList.map .browse) := by
  refine ⟨none, rfl, fun h o => ?_⟩
  constructor
  · rintro ⟨⟩
  · rintro ⟨f, hf, -⟩
    exact absurd hf (hs f o)

theorem isBlock_release (hs : ∀ f' o', Settles i a f' o' ↔ f' = f ∧ o' = o) :
    IsBlock i (fun f h => t.pending.get? f = some h) a
      (release o (t.pending.get? f) ++ (a.change? i).toList.map .browse) := by
  refine ⟨(t.pending.get? f).map (·, o), ?_, fun h o' => ?_⟩
  · cases t.pending.get? f <;> rfl
  · simp only [hs, Option.map_eq_some_iff, Prod.mk.injEq]
    constructor
    · rintro ⟨h, hh, rfl, rfl⟩
      exact ⟨f, ⟨rfl, rfl⟩, hh⟩
    · rintro ⟨f', ⟨rfl, rfl⟩, hh⟩
      exact ⟨h, hh, rfl, rfl⟩

end Block

section Announcement

theorem settles_removed {f' : String} : Settles i (.removed ty f) f' o ↔ f' = f ∧ o = .failure removedFirst := by
  constructor
  · rintro ⟨⟩
    exact ⟨rfl, rfl⟩
  · rintro ⟨rfl, rfl⟩
    exact .removed ty f'

theorem settles_resolved {info : Instance} {r : Record} {f' : String}
    (accepted : Record.ofFullname? info.fullname info.typeDomain i = some r) :
    Settles i (.resolved info) f' o ↔
      f' = info.fullname ∧ o = (info.endpoint? r).elim (.failure noAddress) .found := by
  constructor
  · intro hs
    cases hs with
    | found _ r' e accepted' reached =>
      obtain rfl := Option.some.inj (accepted.symm.trans accepted')
      exact ⟨rfl, by rw [reached]; rfl⟩
    | nowhere _ r' accepted' nowhere =>
      obtain rfl := Option.some.inj (accepted.symm.trans accepted')
      exact ⟨rfl, by rw [nowhere]; rfl⟩
  · rintro ⟨rfl, rfl⟩
    cases he : info.endpoint? r with
    | none => exact .nowhere info r accepted he
    | some e => exact .found info r e accepted he

structure Announced (i : String) (a : Announcement) (t t' : Table η) (block : List (Event η)) : Prop where
  posts : IsBlock i (fun f h => t.pending.get? f = some h) a block
  leaves : ∀ f h, t'.pending.get? f = some h ↔ t.pending.get? f = some h ∧ ∀ o, ¬ Settles i a f o

theorem announced_plain (hs : ∀ f o, ¬ Settles i a f o) : Announced i a t t ((a.change? i).toList.map .browse) :=
  ⟨isBlock_plain hs, fun f _ => (and_iff_left (hs f)).symm⟩

theorem announced_release {t' : Table η} (hs : ∀ f' o', Settles i a f' o' ↔ f' = f ∧ o' = o)
    (ht : t'.pending = t.pending.drop f) :
    Announced i a t t' (release o (t.pending.get? f) ++ (a.change? i).toList.map .browse) := by
  refine ⟨isBlock_release hs, fun g h => ?_⟩
  rw [ht, Keyed.get?_drop]
  simp [hs, and_comm]

theorem announced (i : String) (a : Announcement) (t : Table η) :
    Announced i a t (announce i a t).1 (announce i a t).2 := by
  cases a with
  | searchStarted =>
    have hs : ∀ f o, ¬ Settles i .searchStarted f o := by rintro f o ⟨⟩
    exact announced_plain hs
  | searchStopped =>
    have hs : ∀ f o, ¬ Settles i .searchStopped f o := by rintro f o ⟨⟩
    exact announced_plain hs
  | found ty f =>
    have hs : ∀ f' o, ¬ Settles i (.found ty f) f' o := by rintro f' o ⟨⟩
    have hposts : announce i (.found ty f) t = (t, ((Announcement.found ty f).change? i).toList.map .browse) := by
      cases hr : Record.ofFullname? f ty i <;> simp [announce, Announcement.change?, hr]
    rw [hposts]
    exact announced_plain hs
  | resolved info =>
    have hchange : (Announcement.resolved info).change? i = none := rfl
    cases accepted : Record.ofFullname? info.fullname info.typeDomain i with
    | none =>
      have hs : ∀ f o, ¬ Settles i (.resolved info) f o := by
        intro f o hs
        cases hs with
        | found _ r e accepted' _ => cases accepted.symm.trans accepted'
        | nowhere _ r accepted' _ => cases accepted.symm.trans accepted'
      simp only [announce, accepted]
      exact announced_plain hs
    | some r =>
      have hs : ∀ f' o', Settles i (.resolved info) f' o' ↔ f' = info.fullname ∧
          o' = (info.endpoint? r).elim (.failure noAddress) .found := fun f' o' => settles_resolved accepted
      have hrelease {t' : Table η} (ht : t'.pending = t.pending.drop info.fullname) := announced_release hs ht
      simp only [hchange, Option.toList_none, List.map_nil, List.append_nil] at hrelease
      cases he : info.endpoint? r with
      | none =>
        rw [he] at hrelease
        simp only [announce, accepted, he, Table.giveUp]
        exact hrelease rfl
      | some e =>
        rw [he] at hrelease
        simp only [announce, accepted, he, Table.resolve]
        exact hrelease rfl
  | removed ty f =>
    have hs : ∀ f' o', Settles i (.removed ty f) f' o' ↔ f' = f ∧ o' = .failure removedFirst :=
      fun f' o' => settles_removed
    have hposts : (announce i (.removed ty f) t).2 = release (.failure removedFirst) (t.pending.get? f) ++
        ((Announcement.removed ty f).change? i).toList.map .browse := by
      cases hr : Record.ofFullname? f ty i <;> simp [announce, Table.withdraw, Announcement.change?, hr]
    rw [hposts]
    exact announced_release hs rfl

end Announcement

section Run

def blocksOf (i : String) : List Announcement → Table η → List (List (Event η))
  | [], _ => []
  | a :: as, t => (announce i a t).2 :: blocksOf i as (announce i a t).1

theorem browse_eq (i ty : String) (stopping : Bool) (as : List Announcement) (t : Table η) :
    (browse i ty stopping as t).2 = (blocksOf i (heeded as) t).flatten ++
      if .searchStopped ∈ as ∨ stopping = true then [] else [.browse (.failure (channelClosed ty))] := by
  induction as generalizing t with
  | nil => simp [browse, heeded, blocksOf]
  | cons a as ih =>
    by_cases ha : a = .searchStopped
    · subst ha
      simp [browse, heeded, blocksOf]
    · have hheeded : heeded (a :: as) = a :: heeded as := by simp [heeded, ha]
      have hmem : .searchStopped ∈ a :: as ↔ .searchStopped ∈ as := by simp [Ne.symm ha]
      have hbrowse : (browse i ty stopping (a :: as) t).2 =
          (announce i a t).2 ++ (browse i ty stopping as (announce i a t).1).2 := by
        cases a with
        | searchStopped => exact absurd rfl ha
        | _ => rfl
      rw [hbrowse, hheeded, blocksOf, List.flatten_cons, ih, List.append_assoc]
      simp only [hmem]

theorem length_blocksOf (i : String) (as : List Announcement) (t : Table η) :
    (blocksOf i as t).length = as.length := by
  induction as generalizing t with
  | nil => rfl
  | cons a as ih => rw [blocksOf, List.length_cons, List.length_cons, ih]

theorem isBlock_blocksOf {n : Nat} (ha : as[n]? = some a) (hb : (blocksOf i as t)[n]? = some block) :
    IsBlock i (Waits i t (as.take n)) a block := by
  induction n generalizing as t with
  | zero =>
    obtain ⟨as, rfl⟩ : ∃ rest, as = a :: rest := by
      cases as with
      | nil => cases ha
      | cons b bs => exact ⟨bs, by cases ha; rfl⟩
    cases hb
    refine (announced i a t).posts.congr fun f h => ?_
    simp [Waits]
  | succ n ih =>
    cases as with
    | nil => cases ha
    | cons b bs =>
      refine (ih ha hb).congr fun f h => ?_
      simp only [Waits, (announced i b t).leaves, List.take_succ_cons, List.forall_mem_cons, and_assoc]

theorem changes_blocksOf (i : String) (as : List Announcement) (t : Table η) :
    (blocksOf i as t).flatten.filterMap change? = as.filterMap (·.change? i) := by
  induction as generalizing t with
  | nil => rfl
  | cons a as ih =>
    rw [blocksOf, List.flatten_cons, List.filterMap_append, ih, (announced i a t).posts.changes]
    cases hc : a.change? i <;> simp [hc]

end Run

structure InBlocks (i : String) (t : Table η) (as : List Announcement) (blocks : List (List (Event η))) : Prop where
  length : blocks.length = as.length
  each : ∀ n a block, as[n]? = some a → blocks[n]? = some block → IsBlock i (Waits i t (as.take n)) a block
  removal : ∀ n ty f h, as[n]? = some (.removed ty f) → Waits i t (as.take n) f h →
    blocks[n]? = some (.resolved h (.failure removedFirst) ::
      ((Record.ofFullname? f ty i).map fun r => .browse (.remove r)).toList)
  found : ∀ n block h e, blocks[n]? = some block → .resolved h (.found e) ∈ block →
    ∃ info r, as[n]? = some (.resolved info) ∧ Record.ofFullname? info.fullname info.typeDomain i = some r ∧
      info.endpoint? r = some e ∧ Waits i t (as.take n) info.fullname h
  quiet : ∀ block ∈ blocks, ∀ reason, .browse (.failure reason) ∉ block

theorem inBlocks (i : String) (as : List Announcement) (t : Table η) : InBlocks i t as (blocksOf i as t) := by
  have hlength := length_blocksOf i as t
  have hat {n : Nat} {block : List (Event η)} (hb : (blocksOf i as t)[n]? = some block) : ∃ a, as[n]? = some a := by
    obtain ⟨hn, -⟩ := List.getElem?_eq_some_iff.mp hb
    exact ⟨_, List.getElem?_eq_getElem (hlength ▸ hn)⟩
  constructor
  case length => exact hlength
  case each => exact fun n a block ha hb => isBlock_blocksOf ha hb
  case removal =>
    intro n ty f h ha hw
    obtain ⟨hn, -⟩ := List.getElem?_eq_some_iff.mp ha
    have hb : (blocksOf i as t)[n]? = some _ := List.getElem?_eq_getElem (hlength.symm ▸ hn)
    obtain ⟨outcome, hposts, hout⟩ := isBlock_blocksOf ha hb
    have hsome : outcome = some (h, .failure removedFirst) := (hout h _).mpr ⟨f, .removed ty f, hw⟩
    rw [hb, hposts, hsome]
    cases hr : Record.ofFullname? f ty i <;> simp [Announcement.change?, hr]
  case found =>
    intro n block h e hb hmem
    obtain ⟨a, ha⟩ := hat hb
    obtain ⟨outcome, rfl, hout⟩ := isBlock_blocksOf ha hb
    have hsome : outcome = some (h, .found e) := by
      rcases List.mem_append.mp hmem with hmem | hmem
      · obtain ⟨⟨h', o'⟩, ho, heq⟩ := List.mem_map.mp hmem
        cases heq
        exact Option.mem_toList.mp ho
      · obtain ⟨c, -, heq⟩ := List.mem_map.mp hmem
        cases heq
    obtain ⟨f, hs, hw⟩ := (hout h _).mp hsome
    cases hs with
    | found info r e accepted reached => exact ⟨info, r, ha, accepted, reached, hw⟩
  case quiet =>
    intro block hmem reason hfail
    obtain ⟨n, hb⟩ := List.mem_iff_getElem?.mp hmem
    obtain ⟨a, ha⟩ := hat hb
    obtain ⟨outcome, rfl, -⟩ := isBlock_blocksOf ha hb
    rcases List.mem_append.mp hfail with hfail | hfail
    · obtain ⟨x, -, heq⟩ := List.mem_map.mp hfail
      cases heq
    · obtain ⟨c, hc, heq⟩ := List.mem_map.mp hfail
      cases heq
      cases a with
      | found ty f => cases hr : Record.ofFullname? f ty i <;> simp [Announcement.change?, hr] at hc
      | removed ty f => cases hr : Record.ofFullname? f ty i <;> simp [Announcement.change?, hr] at hc
      | _ => cases hc

theorem forwarder_posts (i ty : String) (stopping : Bool) (as : List Announcement) (t : Table η) :
    (browse i ty stopping as t).2.filterMap change? = (heeded as).filterMap (·.change? i) ∧
      ∃ blocks, InBlocks i t (heeded as) blocks ∧
        (browse i ty stopping as t).2 = blocks.flatten ++
          if .searchStopped ∈ as ∨ stopping = true then [] else [.browse (.failure (channelClosed ty))] := by
  have hposts := browse_eq i ty stopping as t
  refine ⟨?_, blocksOf i (heeded as) t, inBlocks i (heeded as) t, hposts⟩
  have hclosing : (if .searchStopped ∈ as ∨ stopping = true then []
      else [.browse (.failure (channelClosed ty))] : List (Event η)).filterMap change? = [] := by
    split <;> rfl
  rw [hposts, List.filterMap_append, changes_blocksOf, hclosing, List.append_nil]

end StreamScout.Mdns
