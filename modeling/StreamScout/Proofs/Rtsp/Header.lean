import Mathlib.Data.List.Induction
import StreamScout.Proofs.Lists
import StreamScout.Proofs.Text.Blank
import StreamScout.Proofs.Text.Numeral
import StreamScout.Rtsp.Reply

namespace StreamScout.Rtsp

open StreamScout.Text (TrimmedRight Trimmed trimRight trim cutAt)

variable {α : Type} {key : String} {header value value' : List Char} {headers : List (List Char)} {f f' : Fields}

def Gives (key : String) (header value : List Char) : Prop :=
  ∃ k v, TrimmedRight header (k ++ ':' :: v) ∧ ':' ∉ k ∧
    k.map Char.toLower = key.toList.map Char.toLower ∧ Trimmed v value

def Silent (key : String) (header : List Char) : Prop :=
  ∀ value, ¬ Gives key header value

def LastGiven (key : String) (headers : List (List Char)) (value : List Char) : Prop :=
  ∃ before header after, headers = before ++ header :: after ∧ Gives key header value ∧
    ∀ h ∈ after, Silent key h

def Settled (key : String) (reads : List Char → α → Prop) (default : α) (headers : List (List Char)) (a : α) :
    Prop :=
  (∃ value, LastGiven key headers value ∧ reads value a) ∨ (∀ h ∈ headers, Silent key h) ∧ a = default

def ReadsBase (value : List Char) (base : Option String) : Prop :=
  ∃ b slashes, base = some b ∧ value = b.toList ++ slashes ∧ (∀ c ∈ slashes, c = '/') ∧
    b.toList.getLast? ≠ some '/'

def value? (key : String) (header : List Char) : Option (List Char) :=
  (cutAt (· == ':') (trimRight header)).bind fun (k, v) =>
    if sameKey k key.toList then some (trim v) else none

theorem gives_iff : Gives key header value ↔ value? key header = some value := by
  unfold value? Gives
  constructor
  · rintro ⟨k, v, hright, hk, hkey, hv⟩
    have hk : ∀ c ∈ k, (c == ':') = false := fun c hc => by
      rw [beq_eq_false_iff_ne]
      rintro rfl
      exact hk hc
    have hcut : cutAt (· == ':') (trimRight header) = some (k, v) := by
      rw [Text.trimRight_eq_iff.mpr hright]
      exact Text.cutAt_eq_some.mpr ⟨':', rfl, rfl, hk⟩
    have hsame : sameKey k key.toList = true := by simpa [sameKey] using hkey
    simp only [hcut, Option.bind_some, hsame, if_true, Text.trim_eq_iff.mpr hv]
  · intro h
    obtain ⟨⟨k, v⟩, hcut, hval⟩ := Option.bind_eq_some_iff.mp h
    obtain ⟨c, hright, hc, hk⟩ := Text.cutAt_eq_some.mp hcut
    have hcolon : c = ':' := by simpa using hc
    subst hcolon
    by_cases hsame : sameKey k key.toList = true
    · simp only [hsame, if_true, Option.some.injEq] at hval
      refine ⟨k, v, Text.trimRight_eq_iff.mp hright, fun hin => ?_, by simpa [sameKey] using hsame,
        Text.trim_eq_iff.mp hval⟩
      simpa using hk ':' hin
    · simp [hsame] at hval

theorem silent_iff : Silent key header ↔ value? key header = none := by
  simp only [Silent, gives_iff, Option.eq_none_iff_forall_ne_some, ne_eq]

theorem Gives.unique (h : Gives key header value) (h' : Gives key header value') : value = value' :=
  Option.some.inj ((gives_iff.mp h).symm.trans (gives_iff.mp h'))

theorem lastGiven_snoc : LastGiven key (headers ++ [header]) value ↔
    Gives key header value ∨ Silent key header ∧ LastGiven key headers value := by
  constructor
  · rintro ⟨before, last, after, heq, hgives, hafter⟩
    rcases snoc_eq_append_cons heq with ⟨-, -, rfl⟩ | ⟨front, rfl, rfl⟩
    · exact .inl hgives
    · exact .inr ⟨hafter header (by simp), before, last, front, rfl, hgives, fun h hh => hafter h (by simp [hh])⟩
  · rintro (hgives | ⟨hsilent, before, last, after, rfl, hgives, hafter⟩)
    · exact ⟨headers, header, [], rfl, hgives, by simp⟩
    · refine ⟨before, last, after ++ [header], by simp, hgives, fun h hh => ?_⟩
      rcases List.mem_append.mp hh with hold | hnew
      · exact hafter h hold
      · cases List.mem_singleton.mp hnew
        exact hsilent

theorem Gives.not_silent (h : Gives key header value) : ¬ Silent key header :=
  fun hsilent => hsilent value h

theorem settled_nil {reads : List Char → α → Prop} {default a : α} :
    Settled key reads default [] a ↔ a = default := by
  constructor
  · rintro (⟨value, ⟨before, last, after, heq, -⟩, -⟩ | ⟨-, h⟩)
    · simp at heq
    · exact h
  · intro h
    exact .inr ⟨by simp, h⟩

theorem settled_snoc_gives {reads : List Char → α → Prop} {default a : α} (h : Gives key header value) :
    Settled key reads default (headers ++ [header]) a ↔ reads value a := by
  constructor
  · rintro (⟨value', hlast, hreads⟩ | ⟨hsilent, -⟩)
    · rcases lastGiven_snoc.mp hlast with hgives | ⟨hsilent, -⟩
      · rwa [h.unique hgives]
      · exact absurd hsilent h.not_silent
    · exact absurd (hsilent header (by simp)) h.not_silent
  · intro hreads
    exact .inl ⟨value, lastGiven_snoc.mpr (.inl h), hreads⟩

theorem settled_snoc_silent {reads : List Char → α → Prop} {default a : α} (h : Silent key header) :
    Settled key reads default (headers ++ [header]) a ↔ Settled key reads default headers a := by
  have hlast (value : List Char) : LastGiven key (headers ++ [header]) value ↔ LastGiven key headers value := by
    rw [lastGiven_snoc]
    simp [h, h value]
  have hall : (∀ x ∈ headers ++ [header], Silent key x) ↔ ∀ x ∈ headers, Silent key x := by
    simp only [List.mem_append, List.mem_singleton, or_imp, forall_and, forall_eq, h, and_true]
  simp only [Settled, hlast, hall]

theorem settled_total {reads : List Char → α → Prop} {default : α}
    (h : ∀ header ∈ headers, ∀ value, Gives key header value → ∃ a, reads value a) :
    ∃ a, Settled key reads default headers a := by
  induction headers using List.reverseRecOn with
  | nil => exact ⟨default, settled_nil.mpr rfl⟩
  | append_singleton headers header ih =>
    by_cases hsilent : Silent key header
    · obtain ⟨a, ha⟩ := ih fun x hx => h x (by simp [hx])
      exact ⟨a, (settled_snoc_silent hsilent).mpr ha⟩
    · obtain ⟨value, hgives⟩ : ∃ value, Gives key header value := by
        simpa [Silent] using hsilent
      obtain ⟨a, ha⟩ := h header (by simp) value hgives
      exact ⟨a, (settled_snoc_gives hgives).mpr ha⟩

def takeAll (fields : Fields) (headers : List (List Char)) : Except ReplyError Fields :=
  headers.foldlM (fun f header => f.take (trimRight header)) fields

theorem takeAll_cons : takeAll f (header :: headers) = .ok f' ↔
    ∃ g, f.take (trimRight header) = .ok g ∧ takeAll g headers = .ok f' := by
  rw [takeAll, List.foldlM_cons]
  cases f.take (trimRight header) with
  | error e => simp [Bind.bind, Except.bind]
  | ok g => simp [takeAll, Bind.bind, Except.bind]

theorem take_eq (f : Fields) (header : List Char) : f.take (trimRight header) =
    match value? "content-length" header with
    | some value =>
        match Numeral.read Numeral.word64 value with
        | .ok n => .ok { f with length := n }
        | .error fault => .error (.badLength value fault)
    | none =>
        match value? "content-base" header with
        | some value => .ok { f with base := some (String.ofList (Text.dropEnd (· == '/') value)) }
        | none => .ok f := by
  unfold value? Fields.take
  cases cutAt (· == ':') (trimRight header) with
  | none => rfl
  | some parts =>
    obtain ⟨k, v⟩ := parts
    simp only [Option.bind_some]
    by_cases hlength : sameKey k "content-length".toList = true
    · cases hread : Numeral.read Numeral.word64 (trim v) <;> simp only [hlength, if_true, hread]
    · by_cases hbase : sameKey k "content-base".toList = true <;>
        simp only [hlength, hbase, Bool.false_eq_true, if_false, if_true]

theorem silent_of_gives {key' : String} (h : Gives key header value)
    (hne : key.toList.map Char.toLower ≠ key'.toList.map Char.toLower) : Silent key' header := by
  rw [silent_iff]
  rw [gives_iff] at h
  unfold value? at h ⊢
  obtain ⟨⟨k, v⟩, hcut, hval⟩ := Option.bind_eq_some_iff.mp h
  have hkey : sameKey k key.toList = true := by
    by_contra hdiff
    simp [hdiff] at hval
  have hkey' : ¬ sameKey k key'.toList = true := by
    simp only [sameKey, beq_iff_eq] at hkey ⊢
    exact fun heq => hne (hkey.symm.trans heq)
  rw [hcut, Option.bind_some]
  exact if_neg hkey'

theorem readsBase_iff {base : Option String} : ReadsBase value base ↔
    base = some (String.ofList (Text.dropEnd (· == '/') value)) := by
  constructor
  · rintro ⟨b, slashes, rfl, rfl, hslashes, hlast⟩
    have hdrop : Text.dropEnd (· == '/') (b.toList ++ slashes) = b.toList :=
      Text.dropEnd_eq_iff.mpr ⟨slashes, rfl, by simpa using hslashes, fun c hc => by
        rw [beq_eq_false_iff_ne]
        rintro rfl
        exact hlast hc⟩
    rw [hdrop, String.ofList_toList]
  · rintro rfl
    obtain ⟨slashes, heq, hslashes, hlast⟩ := (@Text.dropEnd_eq_iff (· == '/') value _).mp rfl
    refine ⟨_, slashes, rfl, by rwa [String.toList_ofList], by simpa using hslashes, fun hc => ?_⟩
    rw [String.toList_ofList] at hc
    simpa using hlast '/' hc

theorem take_gives_length (h : Gives "content-length" header value) :
    f.take (trimRight header) = .ok f' ↔
      ∃ n, Numeral.Says Numeral.word64 value n ∧ f' = { f with length := n } := by
  rw [take_eq, gives_iff.mp h]
  simp only [← Numeral.read_ok_iff (show 0 < Numeral.word64 by decide)]
  cases Numeral.read Numeral.word64 value with
  | error fault => simp
  | ok n => simp [eq_comm]

theorem take_gives_base (h : Gives "content-base" header value) :
    f.take (trimRight header) = .ok f' ↔ ∃ base, ReadsBase value base ∧ f' = { f with base } := by
  have hsilent : Silent "content-length" header := silent_of_gives h (by decide)
  rw [take_eq, silent_iff.mp hsilent, gives_iff.mp h]
  simp [readsBase_iff, eq_comm]

theorem take_silent (hlength : Silent "content-length" header) (hbase : Silent "content-base" header) :
    f.take (trimRight header) = .ok f' ↔ f' = f := by
  rw [take_eq, silent_iff.mp hlength, silent_iff.mp hbase]
  simp [eq_comm]

def Measured (headers : List (List Char)) : Prop :=
  ∀ header ∈ headers, ∀ value, Gives "content-length" header value → ∃ n, Numeral.Says Numeral.word64 value n

structure Learned (headers : List (List Char)) (f : Fields) : Prop where
  measured : Measured headers
  length : Settled "content-length" (Numeral.Says Numeral.word64) 0 headers f.length
  base : Settled "content-base" ReadsBase none headers f.base

theorem learned_nil : Learned [] f ↔ f = {} := by
  constructor
  · rintro ⟨-, hlength, hbase⟩
    obtain ⟨length, base⟩ := f
    cases settled_nil.mp hlength
    cases settled_nil.mp hbase
    rfl
  · rintro rfl
    exact ⟨by simp [Measured], settled_nil.mpr rfl, settled_nil.mpr rfl⟩

theorem measured_snoc : Measured (headers ++ [header]) ↔
    Measured headers ∧
      ∀ value, Gives "content-length" header value → ∃ n, Numeral.Says Numeral.word64 value n := by
  simp [Measured, or_imp, forall_and]

theorem learned_snoc_length (h : Gives "content-length" header value) : Learned (headers ++ [header]) f ↔
    ∃ f', Learned headers f' ∧ f'.take (trimRight header) = .ok f := by
  have hbase : Silent "content-base" header := silent_of_gives h (by decide)
  simp only [take_gives_length h]
  constructor
  · rintro ⟨hm, hl, hb⟩
    -- the last header decides, but the earlier ones have to be readable too
    obtain ⟨n, hn⟩ := settled_total (measured_snoc.mp hm).1
    exact ⟨{ f with length := n }, ⟨(measured_snoc.mp hm).1, hn, (settled_snoc_silent hbase).mp hb⟩,
      f.length, (settled_snoc_gives h).mp hl, rfl⟩
  · rintro ⟨f', ⟨hm, -, hb⟩, n, hn, rfl⟩
    refine ⟨measured_snoc.mpr ⟨hm, fun value' h' => ⟨n, ?_⟩⟩, (settled_snoc_gives h).mpr hn,
      (settled_snoc_silent hbase).mpr hb⟩
    rwa [h'.unique h]

theorem learned_snoc_base (h : Gives "content-base" header value) : Learned (headers ++ [header]) f ↔
    ∃ f', Learned headers f' ∧ f'.take (trimRight header) = .ok f := by
  have hlength : Silent "content-length" header := silent_of_gives h (by decide)
  simp only [take_gives_base h]
  constructor
  · rintro ⟨hm, hl, hb⟩
    obtain ⟨base, hbase⟩ := settled_total fun header _ value _ => ⟨_, (@readsBase_iff value _).mpr rfl⟩
    exact ⟨{ f with base }, ⟨(measured_snoc.mp hm).1, (settled_snoc_silent hlength).mp hl, hbase⟩,
      f.base, (settled_snoc_gives h).mp hb, rfl⟩
  · rintro ⟨f', ⟨hm, hl, -⟩, base, hbase, rfl⟩
    exact ⟨measured_snoc.mpr ⟨hm, fun value' h' => absurd h' (hlength value')⟩,
      (settled_snoc_silent hlength).mpr hl, (settled_snoc_gives h).mpr hbase⟩

theorem learned_snoc_silent (hlength : Silent "content-length" header) (hbase : Silent "content-base" header) :
    Learned (headers ++ [header]) f ↔ ∃ f', Learned headers f' ∧ f'.take (trimRight header) = .ok f := by
  simp only [take_silent hlength hbase]
  constructor
  · rintro ⟨hm, hl, hb⟩
    exact ⟨f, ⟨(measured_snoc.mp hm).1, (settled_snoc_silent hlength).mp hl, (settled_snoc_silent hbase).mp hb⟩,
      rfl⟩
  · rintro ⟨f', ⟨hm, hl, hb⟩, rfl⟩
    exact ⟨measured_snoc.mpr ⟨hm, fun value h => absurd h (hlength value)⟩,
      (settled_snoc_silent hlength).mpr hl, (settled_snoc_silent hbase).mpr hb⟩

theorem learned_snoc : Learned (headers ++ [header]) f ↔
    ∃ f', Learned headers f' ∧ f'.take (trimRight header) = .ok f := by
  by_cases hlength : Silent "content-length" header
  · by_cases hbase : Silent "content-base" header
    · exact learned_snoc_silent hlength hbase
    · simp only [Silent, not_forall, not_not] at hbase
      exact learned_snoc_base hbase.choose_spec
  · simp only [Silent, not_forall, not_not] at hlength
    exact learned_snoc_length hlength.choose_spec

theorem takeAll_snoc : takeAll f (headers ++ [header]) = .ok f' ↔
    ∃ g, takeAll f headers = .ok g ∧ g.take (trimRight header) = .ok f' := by
  rw [takeAll, List.foldlM_append]
  simp only [List.foldlM_cons, List.foldlM_nil, bind_pure]
  cases hall : headers.foldlM (fun f header => f.take (trimRight header)) f with
  | error e => simp [takeAll, hall, Bind.bind, Except.bind]
  | ok g => simp [takeAll, hall, Bind.bind, Except.bind]

theorem takeAll_ok_iff : takeAll {} headers = .ok f ↔ Learned headers f := by
  induction headers using List.reverseRecOn generalizing f with
  | nil =>
    rw [learned_nil]
    simp [takeAll, pure, Except.pure, eq_comm]
  | append_singleton headers header ih =>
    rw [takeAll_snoc, learned_snoc]
    simp only [ih]

end StreamScout.Rtsp
