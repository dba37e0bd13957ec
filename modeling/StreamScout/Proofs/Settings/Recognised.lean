import StreamScout.Proofs.Sequence
import StreamScout.Proofs.Settings.Section
import StreamScout.Proofs.Toml.Distinct

namespace StreamScout.Settings

open StreamScout.Toml (Item Entries Kind)

variable {α β : Type} {es inner : Entries} {v : Item} {name key : String}

inductive Wanted where
  | text
  | number
  deriving DecidableEq, Repr

def Wanted.Admits : Wanted → Item → Prop
  | .text, i => ∃ s, i = .string s
  | .number, i => ∃ n : Nat, i = .integer n

def recognised : List (String × String × Wanted) :=
  [("browser", "interface", .text), ("browser", "service_type", .text), ("probe", "path_prefix", .text),
    ("probe", "connect_timeout_ms", .number), ("probe", "io_timeout_ms", .number),
    ("maintenance", "reap_interval_secs", .number), ("api", "listen", .text)]

def entries? : Item → Option Entries
  | .table _ es => some es
  | _ => none

def inside (found : Option Item) (key : String) : Option Item :=
  (found.bind entries?).bind (Keyed.get? key)

def value? (name key : String) (es : Entries) : Option Item :=
  inside (Keyed.get? name es) key

def textIn : Option Item → Option String
  | some (.string s) => some s
  | _ => none

def numberIn : Option Item → Option Nat
  | some (.integer n) => some n.toNat
  | _ => none

def textOr (i : Option Item) (d : String) : String :=
  (textIn i).getD d

def numberOr (i : Option Item) (d : Nat) : Nat :=
  (numberIn i).getD d

def told (es : Entries) : Settings where
  browser :=
    { interface := textOr (value? "browser" "interface" es) ""
      serviceType := textOr (value? "browser" "service_type" es) "_rtsp._tcp.local." }
  probing :=
    { pathStart := textOr (value? "probe" "path_prefix" es) "/by-name/"
      connectTimeout := numberOr (value? "probe" "connect_timeout_ms" es) 2000
      ioTimeout := numberOr (value? "probe" "io_timeout_ms" es) 5000 }
  maintenance := { reapInterval := numberOr (value? "maintenance" "reap_interval_secs" es) 5 }
  serving := { listen := textOr (value? "api" "listen" es) "[::]:8090" }

def sectionNames : List String :=
  ["browser", "probe", "maintenance", "api"]

def Tables (es : Entries) : Prop :=
  ∀ name i, (name, i) ∈ es → name ∈ sectionNames → ∃ kind inner, i = .table kind inner

def Admitted (es : Entries) : Prop :=
  ∀ name key w, (name, key, w) ∈ recognised → ∀ v, value? name key es = some v → w.Admits v

structure WellTyped (es : Entries) : Prop where
  interface : ∃ name, value? "browser" "interface" es = some (.string name) ∧ name ≠ ""
  types : Admitted es

section Values

theorem text_eq_ok {t : String} : text v = .ok t ↔ v = .string t := by
  cases v <;> simp [text]

theorem count_eq_ok {n : Nat} : count v = .ok n ↔ v = .integer n := by
  cases v with
  | integer m =>
    have hcount : count (.integer m) = if 0 ≤ m then .ok m.toNat else .error (.wrongValue (.integer m) "u64") := rfl
    rw [hcount, Item.integer.injEq]
    split
    next hm =>
      rw [Except.ok.injEq]
      omega
    next hm =>
      simp only [reduceCtorEq, false_iff]
      omega
  | _ => simp [count]

theorem textIn_eq_some {i : Option Item} {t : String} : textIn i = some t ↔ i = some (.string t) := by
  cases i with
  | none => simp [textIn]
  | some i => cases i <;> simp [textIn]

theorem exists_of_text_map {f : String → β} {b : β} (h : (text v).map f = .ok b) : ∃ s, v = .string s ∧ f s = b := by
  obtain ⟨s, hs, rfl⟩ := exists_of_map h
  exact ⟨s, text_eq_ok.mp hs, rfl⟩

theorem exists_of_count_map {f : Nat → β} {b : β} (h : (count v).map f = .ok b) :
    ∃ n : Nat, v = .integer n ∧ f n = b := by
  obtain ⟨n, hn, rfl⟩ := exists_of_map h
  exact ⟨n, count_eq_ok.mp hn, rfl⟩

theorem exists_text_map {f : String → β} : (∃ b, (text v).map f = .ok b) ↔ Wanted.text.Admits v := by
  simp only [exists_map_iff, text_eq_ok, Wanted.Admits]

theorem exists_count_map {f : Nat → β} : (∃ b, (count v).map f = .ok b) ↔ Wanted.number.Admits v := by
  simp only [exists_map_iff, count_eq_ok, Wanted.Admits]

end Values

section Sections

theorem recognised_unique {w w' : Wanted} (h : (name, key, w) ∈ recognised) (h' : (name, key, w') ∈ recognised) :
    w = w' := by
  have hall : ∀ e ∈ recognised, ∀ e' ∈ recognised, e.1 = e'.1 → e.2.1 = e'.2.1 → e.2.2 = e'.2.2 := by decide
  exact hall _ h _ h' rfl rfl

def Typed (name : String) (inner : Entries) : Prop :=
  ∀ key w, (name, key, w) ∈ recognised → ∀ v, Keyed.get? key inner = some v → w.Admits v

/-- The section reads the recognised keys of this name; `told` is what it makes of their values. -/
structure Section.Follows (name : String) (told : (String → Option Item) → α → α) (s : Section α) : Prop where
  keys : ∀ key, key ∈ s.keys ↔ ∃ w, (name, key, w) ∈ recognised
  typed : ∀ key w, (name, key, w) ∈ recognised → ∀ v a, (∃ a', s.set key v a = .ok a') ↔ w.Admits v
  none : ∀ a, told (fun _ => none) a = a
  congr : ∀ f g a, (∀ k ∈ s.keys, f k = g k) → told f a = told g a
  set : ∀ k ∈ s.keys, ∀ v a a', s.set k v a = .ok a' → ∀ f g, f k = Option.none →
    (∀ key, g key = if key = k then some v else f key) → told f a' = told g a

theorem Section.Follows.exists_ofEntries {told : (String → Option Item) → α → α} {s : Section α}
    (h : s.Follows name told) (distinct : Keyed.Distinct inner) (a : α) :
    (∃ a', s.ofEntries inner a = .ok a') ↔ Typed name inner := by
  have hreads : ∀ key ∈ s.keys, ∀ v, (key, v) ∈ inner → ∀ a,
      (∃ a', s.set key v a = .ok a') ↔ ∀ w, (name, key, w) ∈ recognised → w.Admits v := by
    intro key hkey v _ a
    obtain ⟨w, hw⟩ := (h.keys key).mp hkey
    rw [h.typed key w hw v a]
    constructor
    · intro hv w' hw'
      rwa [← recognised_unique hw hw']
    · exact fun hv => hv w hw
  rw [Section.exists_ofEntries_iff hreads]
  constructor
  · intro hall key w hw v hv
    exact hall key ((h.keys key).mpr ⟨w, hw⟩) v (Keyed.mem_of_get? hv) w hw
  · intro hall key _ v hv w hw
    exact hall key w hw v ((Keyed.get?_eq_some_iff distinct).mpr hv)

theorem Section.Follows.eq_told {told : (String → Option Item) → α → α} {s : Section α} (h : s.Follows name told)
    (distinct : Keyed.Distinct inner) {a a' : α} (hread : s.ofEntries inner a = .ok a') :
    a' = told (Keyed.get? · inner) a :=
  Section.ofEntries_told h.none h.congr (fun k hk v _ => h.set k hk v) distinct hread

def BrowserDraft.told (f : String → Option Item) (d : BrowserDraft) : BrowserDraft where
  interface := (textIn (f "interface")).or d.interface
  serviceType := (textIn (f "service_type")).or d.serviceType

def ProbingDraft.told (f : String → Option Item) (d : ProbingDraft) : ProbingDraft where
  pathStart := (textIn (f "path_prefix")).or d.pathStart
  connectTimeout := (numberIn (f "connect_timeout_ms")).or d.connectTimeout
  ioTimeout := (numberIn (f "io_timeout_ms")).or d.ioTimeout

def MaintenanceDraft.told (f : String → Option Item) (d : MaintenanceDraft) : MaintenanceDraft where
  reapInterval := (numberIn (f "reap_interval_secs")).or d.reapInterval

def ServingDraft.told (f : String → Option Item) (d : ServingDraft) : ServingDraft where
  listen := (textIn (f "listen")).or d.listen

theorem browser_follows : browserSection.Follows "browser" BrowserDraft.told where
  keys key := by simp [browserSection, recognised, exists_or]
  typed key w hw v d := by
    simp only [recognised, List.mem_cons, Prod.mk.injEq, true_and, String.reduceEq, false_and, List.not_mem_nil,
      or_self, or_false] at hw
    rcases hw with ⟨rfl, rfl⟩ | ⟨rfl, rfl⟩ <;> exact exists_text_map
  none d := rfl
  congr f g d h := by
    simp only [BrowserDraft.told, h "interface" (by decide), h "service_type" (by decide)]
  set key hkey v d d' hset f g hf hg := by
    simp only [browserSection, List.mem_cons, List.not_mem_nil, or_false] at hkey
    rcases hkey with rfl | rfl
    · obtain ⟨s, rfl, rfl⟩ := exists_of_text_map hset
      simp [BrowserDraft.told, textIn, hf, hg]
    · obtain ⟨s, rfl, rfl⟩ := exists_of_text_map hset
      simp [BrowserDraft.told, textIn, hf, hg]

theorem probing_follows : probingSection.Follows "probe" ProbingDraft.told where
  keys key := by simp [probingSection, recognised, exists_or]
  typed key w hw v p := by
    simp only [recognised, List.mem_cons, Prod.mk.injEq, String.reduceEq, false_and, true_and, List.not_mem_nil,
      or_self, or_false, false_or] at hw
    rcases hw with ⟨rfl, rfl⟩ | ⟨rfl, rfl⟩ | ⟨rfl, rfl⟩
    · exact exists_text_map
    · exact exists_count_map
    · exact exists_count_map
  none p := rfl
  congr f g p h := by
    simp only [ProbingDraft.told, h "path_prefix" (by decide), h "connect_timeout_ms" (by decide),
      h "io_timeout_ms" (by decide)]
  set key hkey v p p' hset f g hf hg := by
    simp only [probingSection, List.mem_cons, List.not_mem_nil, or_false] at hkey
    rcases hkey with rfl | rfl | rfl
    · obtain ⟨s, rfl, rfl⟩ := exists_of_text_map hset
      simp [ProbingDraft.told, textIn, hf, hg]
    · obtain ⟨n, rfl, rfl⟩ := exists_of_count_map hset
      simp [ProbingDraft.told, numberIn, hf, hg]
    · obtain ⟨n, rfl, rfl⟩ := exists_of_count_map hset
      simp [ProbingDraft.told, numberIn, hf, hg]

theorem maintenance_follows : maintenanceSection.Follows "maintenance" MaintenanceDraft.told where
  keys key := by simp [maintenanceSection, recognised]
  typed key w hw v m := by
    simp only [recognised, List.mem_cons, Prod.mk.injEq, String.reduceEq, false_and, true_and, List.not_mem_nil,
      or_self, or_false, false_or] at hw
    obtain ⟨rfl, rfl⟩ := hw
    exact exists_count_map
  none m := rfl
  congr f g m h := by simp only [MaintenanceDraft.told, h "reap_interval_secs" (by decide)]
  set key hkey v m m' hset f g hf hg := by
    simp only [maintenanceSection, List.mem_cons, List.not_mem_nil, or_false] at hkey
    subst hkey
    obtain ⟨n, rfl, rfl⟩ := exists_of_count_map hset
    simp [MaintenanceDraft.told, numberIn, hf, hg]

theorem serving_follows : servingSection.Follows "api" ServingDraft.told where
  keys key := by simp [servingSection, recognised]
  typed key w hw v a := by
    simp only [recognised, List.mem_cons, Prod.mk.injEq, String.reduceEq, false_and, true_and, List.not_mem_nil,
      or_false, false_or] at hw
    obtain ⟨rfl, rfl⟩ := hw
    exact exists_text_map
  none a := rfl
  congr f g a h := by simp only [ServingDraft.told, h "listen" (by decide)]
  set key hkey v a a' hset f g hf hg := by
    simp only [servingSection, List.mem_cons, List.not_mem_nil, or_false] at hkey
    subst hkey
    obtain ⟨s, rfl, rfl⟩ := exists_of_text_map hset
    simp [ServingDraft.told, textIn, hf, hg]

end Sections

section Defaults

def ProbingDraft.over (d : ProbingDraft) (p : Probing) : Probing where
  pathStart := d.pathStart.getD p.pathStart
  connectTimeout := d.connectTimeout.getD p.connectTimeout
  ioTimeout := d.ioTimeout.getD p.ioTimeout

def MaintenanceDraft.over (d : MaintenanceDraft) (m : Maintenance) : Maintenance where
  reapInterval := d.reapInterval.getD m.reapInterval

def ServingDraft.over (d : ServingDraft) (a : Serving) : Serving where
  listen := d.listen.getD a.listen

-- Whichever keys a section lacks, their own defaults are those of an absent section.

theorem ProbingDraft.fill_eq_over (d : ProbingDraft) : d.fill = d.over default :=
  rfl

theorem MaintenanceDraft.fill_eq_over (d : MaintenanceDraft) : d.fill = d.over default :=
  rfl

theorem ServingDraft.fill_eq_over (d : ServingDraft) : d.fill = d.over default :=
  rfl

/-- An absent section counts as one that lacks every key. -/
theorem getD_inside [Inhabited β] {r : (String → Option Item) → β} (h : r (fun _ => none) = default)
    (i : Option Item) : (if i.isSome then some (r (inside i)) else none).getD default = r (inside i) := by
  cases i with
  | none => exact h.symm
  | some i => rfl

end Defaults

end StreamScout.Settings
