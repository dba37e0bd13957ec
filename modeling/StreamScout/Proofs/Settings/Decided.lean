import Mathlib.Logic.Relation
import StreamScout.Proofs.Settings.Document

namespace StreamScout.Settings

open StreamScout.Toml (Item Entries Kind NeatEntries)
open scoped List

variable {es es' inner inner' : Entries} {v : Item} {name key : String} {w : Wanted} {document : List Char}

inductive EditKeys (name : String) : Entries → Entries → Prop
  | reorder {inner inner' : Entries} (h : inner ~ inner') : EditKeys name inner inner'
  | add {inner : Entries} {key : String} (unknown : ∀ w, (name, key, w) ∉ recognised) (v : Item) :
      EditKeys name inner ((key, v) :: inner)

inductive Edit : Entries → Entries → Prop
  | reorder {es es' : Entries} (h : es ~ es') : Edit es es'
  | add {es : Entries} {name : String} (unknown : name ∉ sectionNames) (i : Item) : Edit es ((name, i) :: es)
  | addEmpty {es : Entries} (name : String) (kind : Kind) : Edit es ((name, .table kind []) :: es)
  | inside {es inner inner' : Entries} {name : String} (kind kind' : Kind) (h : EditKeys name inner inner') :
      Edit ((name, .table kind inner) :: es) ((name, .table kind' inner') :: es)

def Edited : Entries → Entries → Prop :=
  Relation.EqvGen Edit

section Edits

theorem Edited.congr {P : Entries → Prop} (hP : ∀ es es', Edit es es' → (P es ↔ P es')) (h : Edited es es') :
    P es ↔ P es' := by
  induction h with
  | rel es es' hedit => exact hP es es' hedit
  | refl es => exact Iff.rfl
  | symm es es' _ ih => exact ih.symm
  | trans es es₁ es' _ _ ih ih' => exact ih.trans ih'

def Holds (name key : String) (v : Item) (es : Entries) : Prop :=
  ∃ kind inner, (name, .table kind inner) ∈ es ∧ (key, v) ∈ inner

theorem holds_cons (e : String × Item) : Holds name key v (e :: es) ↔
    (∃ kind inner, e = (name, .table kind inner) ∧ (key, v) ∈ inner) ∨ Holds name key v es := by
  constructor
  · rintro ⟨kind, inner, hmem, hv⟩
    rcases List.mem_cons.mp hmem with heq | hmem
    · exact .inl ⟨kind, inner, heq.symm, hv⟩
    · exact .inr ⟨kind, inner, hmem, hv⟩
  · rintro (⟨kind, inner, rfl, hv⟩ | ⟨kind, inner, hmem, hv⟩)
    · exact ⟨kind, inner, List.mem_cons_self, hv⟩
    · exact ⟨kind, inner, List.mem_cons_of_mem _ hmem, hv⟩

theorem EditKeys.mem_iff (hw : (name, key, w) ∈ recognised) (h : EditKeys name inner inner') :
    (key, v) ∈ inner ↔ (key, v) ∈ inner' := by
  cases h with
  | reorder h => exact h.mem_iff
  | add unknown v' =>
    refine (List.mem_cons.trans (or_iff_right ?_)).symm
    rintro ⟨⟩
    exact unknown w hw

theorem Edit.holds_iff (hw : (name, key, w) ∈ recognised) (h : Edit es es') :
    Holds name key v es ↔ Holds name key v es' := by
  cases h with
  | reorder h => simp only [Holds, h.mem_iff]
  | add unknown i =>
    rw [holds_cons, or_iff_right]
    rintro ⟨kind, inner, heq, -⟩
    cases heq
    exact unknown (mem_sectionNames hw)
  | addEmpty name' kind =>
    rw [holds_cons, or_iff_right]
    rintro ⟨kind', inner, heq, hv⟩
    cases heq
    cases hv
  | @inside es inner inner' name' kind kind' h =>
    have hhead {inner : Entries} (k : Kind) : (∃ kind inner₁, (name', Item.table k inner) = (name, .table kind inner₁) ∧
        (key, v) ∈ inner₁) ↔ name' = name ∧ (key, v) ∈ inner := by
      simp only [Prod.mk.injEq, Item.table.injEq]
      constructor
      · rintro ⟨kind, inner₁, ⟨hname, -, rfl⟩, hv⟩
        exact ⟨hname, hv⟩
      · rintro ⟨hname, hv⟩
        exact ⟨k, inner, ⟨hname, rfl, rfl⟩, hv⟩
    rw [holds_cons, holds_cons, hhead, hhead]
    refine or_congr_left (and_congr_right ?_)
    rintro rfl
    exact h.mem_iff hw

theorem Edit.tables_iff (h : Edit es es') : Tables es ↔ Tables es' := by
  have hcons {es : Entries} {name : String} {i : Item} (hi : name ∈ sectionNames → ∃ kind inner, i = .table kind inner) :
      Tables es ↔ Tables ((name, i) :: es) := by
    simp only [Tables, List.mem_cons]
    constructor
    · rintro h name' i' (heq | hmem) hname
      · cases heq
        exact hi hname
      · exact h name' i' hmem hname
    · exact fun h name' i' hmem => h name' i' (.inr hmem)
  cases h with
  | reorder h => simp only [Tables, h.mem_iff]
  | add unknown i => exact hcons fun hname => absurd hname unknown
  | addEmpty name kind => exact hcons fun _ => ⟨kind, [], rfl⟩
  | inside kind kind' h => exact (hcons fun _ => ⟨kind, _, rfl⟩).symm.trans (hcons fun _ => ⟨kind', _, rfl⟩)

theorem value?_eq_some_iff_holds (neat : NeatEntries es) : value? name key es = some v ↔ Holds name key v es := by
  rw [value?_eq_some_iff]
  constructor
  · rintro ⟨kind, inner, hget, hv⟩
    exact ⟨kind, inner, Keyed.mem_of_get? hget, Keyed.mem_of_get? hv⟩
  · rintro ⟨kind, inner, hmem, hv⟩
    have distinct := (Toml.neat_table_iff.mp (neat.inner _ hmem)).distinct
    exact ⟨kind, inner, (Keyed.get?_eq_some_iff neat.distinct).mpr hmem, (Keyed.get?_eq_some_iff distinct).mpr hv⟩

theorem Edited.value?_eq (neat : NeatEntries es) (neat' : NeatEntries es') (h : Edited es es')
    (hw : (name, key, w) ∈ recognised) : value? name key es = value? name key es' := by
  ext v
  rw [value?_eq_some_iff_holds neat, value?_eq_some_iff_holds neat']
  exact h.congr fun _ _ hedit => hedit.holds_iff hw

end Edits

section Values

variable (hvalues : ∀ name key w, (name, key, w) ∈ recognised → value? name key es = value? name key es')

include hvalues

theorem told_congr : told es = told es' := by
  simp only [told, hvalues "browser" "interface" .text (by decide), hvalues "browser" "service_type" .text (by decide),
    hvalues "probe" "path_prefix" .text (by decide), hvalues "probe" "connect_timeout_ms" .number (by decide),
    hvalues "probe" "io_timeout_ms" .number (by decide), hvalues "maintenance" "reap_interval_secs" .number (by decide),
    hvalues "api" "listen" .text (by decide)]

theorem WellTyped.of_values (h : WellTyped es) : WellTyped es' := by
  obtain ⟨⟨n, hn, hne⟩, types⟩ := h
  refine ⟨⟨n, ?_, hne⟩, fun name key w hw v hv => types name key w hw v ?_⟩
  · rwa [← hvalues "browser" "interface" .text (by decide)]
  · rwa [hvalues name key w hw]

end Values

structure DecidedByKeys (document : List Char) (es : Entries) : Prop where
  accepted : (∃ s, parse document = .ok s) ↔ WellTyped es
  given : ∀ s, parse document = .ok s → s = told es
  /-- A value is missing alike if there is no such section, if the section is empty or if it has other keys only. -/
  omitted : ∀ name key, value? name key es = none ↔
    ∀ kind inner, (name, .table kind inner) ∈ es → key ∉ Keyed.keys inner
  edited : ∀ document' es', Toml.parse document' = some es' → Edited es es' →
    ∀ s, parse document' = .ok s ↔ parse document = .ok s

theorem value?_eq_none_iff (neat : NeatEntries es) : value? name key es = none ↔
    ∀ kind inner, (name, .table kind inner) ∈ es → key ∉ Keyed.keys inner := by
  simp only [Option.eq_none_iff_forall_ne_some, ne_eq, value?_eq_some_iff_holds neat]
  constructor
  · intro h kind inner hmem hkey
    obtain ⟨⟨key, v⟩, hv, rfl⟩ := List.mem_map.mp hkey
    exact h v ⟨kind, inner, hmem, hv⟩
  · rintro h v ⟨kind, inner, hmem, hv⟩
    exact h kind inner hmem (List.mem_map_of_mem hv)

theorem parse_eq_ok_iff (tree : Toml.parse document = some es) (tables : Tables es) (s : Settings) :
    parse document = .ok s ↔ WellTyped es ∧ s = told es := by
  constructor
  · intro h
    exact ⟨(exists_parse tree tables).mp ⟨s, h⟩, parse_told tree tables h⟩
  · rintro ⟨typed, rfl⟩
    obtain ⟨s, hs⟩ := (exists_parse tree tables).mpr typed
    rwa [← parse_told tree tables hs]

theorem decided_by_keys (tree : Toml.parse document = some es) (tables : Tables es) : DecidedByKeys document es where
  accepted := exists_parse tree tables
  given _ := parse_told tree tables
  omitted _ _ := value?_eq_none_iff (Toml.parse_neat tree)
  edited document' es' tree' h s := by
    have tables' : Tables es' := (h.congr fun _ _ hedit => hedit.tables_iff).mp tables
    have hvalues : ∀ name key w, (name, key, w) ∈ recognised → value? name key es = value? name key es' :=
      fun name key w hw => h.value?_eq (Toml.parse_neat tree) (Toml.parse_neat tree') hw
    have htyped : WellTyped es' ↔ WellTyped es :=
      ⟨.of_values fun name key w hw => (hvalues name key w hw).symm, .of_values hvalues⟩
    rw [parse_eq_ok_iff tree' tables', parse_eq_ok_iff tree tables, htyped, told_congr hvalues]

def studioText : List Char :=
  "[probe]\nretries = 3\nio_timeout_ms = 750\n[browser]\ninterface = \"eth0\"\n[api]\n".toList

def studioTree : Entries :=
  [("probe", .table .header [("retries", .integer 3), ("io_timeout_ms", .integer 750)]),
    ("browser", .table .header [("interface", .string "eth0")]), ("api", .table .header [])]

theorem decided_by_keys_studio : Toml.parse studioText = some studioTree ∧ Tables studioTree ∧
    told studioTree =
      { browser := { interface := "eth0", serviceType := "_rtsp._tcp.local." }
        probing := { pathStart := "/by-name/", connectTimeout := 2000, ioTimeout := 750 }
        maintenance := { reapInterval := 5 }
        serving := { listen := "[::]:8090" } } ∧
    DecidedByKeys studioText studioTree := by
  have tree : Toml.parse studioText = some studioTree := rfl
  have hall : ∀ e ∈ studioTree, ∃ kind inner, e.2 = .table kind inner := by simp [studioTree]
  have tables : Tables studioTree := fun _ _ hi _ => hall _ hi
  exact ⟨tree, tables, rfl, decided_by_keys tree tables⟩

end StreamScout.Settings
