import StreamScout.Proofs.Api.Named
import StreamScout.Proofs.Source.Reader
import StreamScout.Session.State

namespace StreamScout.Source.Table

open StreamScout.Time (Timestamp)

variable {calls : List (Call Timestamp)} {s : RemoteSource}

def Clocked (calls : List (Call Timestamp)) : Prop :=
  ∀ now name domain d, .deliver now name domain d ∈ calls → now.regular = true

theorem timed_entries (h : Clocked calls) (hs : s ∈ (Table.after calls).entries) : RemoteSource.Timed s := by
  obtain ⟨hlast, earlier, later, d, hsplit, -⟩ := ((held_after calls).entries s).mp hs
  have hfirst : .deliver s.firstSeen s.key.1 s.key.2 d ∈ calls := by
    rw [hsplit]
    simp
  exact ⟨h _ _ _ _ hfirst, h _ _ _ _ (lastCall?_mem hlast).1⟩

end StreamScout.Source.Table

namespace StreamScout.Api

open StreamScout.Source (Call Table digest held_after keyLt sort_strict digest_sort)
open StreamScout.Source.Table (Clocked timed_entries)
open StreamScout.Time (Timestamp)

variable {σ τ : Type}

section Handlers

variable (writeTime : τ → String) (running : Bool) (pendingProbes : Nat) (t : Table τ)

theorem sourceNamed_table (name : List Char) : ((sourceNamed writeTime name).run t).2 = t := by
  rw [sourceNamed]
  split <;> rfl

theorem handle_table (route : Route) : ((handle writeTime running pendingProbes route).run t).2 = t := by
  cases route with
  | status | sources | digest => rfl
  | source name => exact sourceNamed_table writeTime t name

theorem serve_table (method : String) (path : List Char) :
    ((serve writeTime method path running pendingProbes).run t).2 = t := by
  rw [serve]
  split
  next => rfl
  next route hroute =>
    split
    next => exact handle_table writeTime running pendingProbes t route
    next =>
      split
      next => exact handle_table writeTime running pendingProbes t route
      next => rfl

end Handlers

structure Server (σ : Type) where
  table : Table Timestamp := {}
  session : Session.State σ
  answers : List (Option Response) := []

inductive Deed where
  | call (c : Call Timestamp)
  | request (method : String) (uri : List Char)

def Deed.call? : Deed → Option (Call Timestamp)
  | .call c => some c
  | .request .. => none

namespace Server

def view (server : Server σ) : View Timestamp where
  sources := server.table
  running := server.session.gate
  pendingProbes := server.session.pendingProbes

def answer? (method : String) (uri : List Char) (server : Server σ) : Option Response :=
  (uriPath? uri).map fun path => respond Timestamp.text method path server.view

def perform (server : Server σ) : Deed → Server σ
  | .call c => { server with table := c.perform server.table }
  | .request method uri =>
      match uriPath? uri with
      | none => { server with answers := server.answers ++ [none] }
      | some path =>
          let served := (serve Timestamp.text method path server.session.gate server.session.pendingProbes).run server.table
          { server with table := served.2, answers := server.answers ++ [some served.1] }

def after (session : Session.State σ) (deeds : List Deed) : Server σ :=
  deeds.foldl perform { session }

theorem perform_request (server : Server σ) (method : String) (uri : List Char) :
    server.perform (.request method uri) = { server with answers := server.answers ++ [server.answer? method uri] } := by
  rw [perform, answer?]
  cases uriPath? uri with
  | none => rfl
  | some path =>
    simp only [serve_table]
    rfl

theorem after_snoc (session : Session.State σ) (deeds : List Deed) (deed : Deed) :
    after session (deeds ++ [deed]) = (after session deeds).perform deed :=
  List.foldl_concat ..

theorem after_table (session : Session.State σ) (deeds : List Deed) :
    (after session deeds).table = Table.after (deeds.filterMap Deed.call?) := by
  induction deeds using List.reverseRecOn with
  | nil => rfl
  | append_singleton deeds deed ih =>
    rw [after_snoc, List.filterMap_append]
    cases deed with
    | call c =>
      have hcalls : List.filterMap Deed.call? [.call c] = [c] := rfl
      rw [hcalls, Table.after, List.foldl_concat, perform, ih]
      rfl
    | request method uri =>
      have hcalls : List.filterMap Deed.call? [.request method uri] = [] := rfl
      rw [hcalls, List.append_nil, perform_request]
      exact ih

theorem after_session (session : Session.State σ) (deeds : List Deed) : (after session deeds).session = session := by
  induction deeds using List.reverseRecOn with
  | nil => rfl
  | append_singleton deeds deed ih =>
    rw [after_snoc]
    cases deed with
    | call c => exact ih
    | request method uri =>
      rw [perform_request]
      exact ih

theorem answers_grow (session : Session.State σ) (earlier later : List Deed) :
    ∃ more, (after session (earlier ++ later)).answers = (after session earlier).answers ++ more := by
  induction later using List.reverseRecOn with
  | nil => exact ⟨[], by simp⟩
  | append_singleton later deed ih =>
    obtain ⟨more, hmore⟩ := ih
    rw [← List.append_assoc, after_snoc]
    cases deed with
    | call c => exact ⟨more, hmore⟩
    | request method uri => exact ⟨more ++ [_], by rw [perform_request, hmore, List.append_assoc]⟩

theorem answered_at (session : Session.State σ) (earlier later : List Deed) (method : String) (uri : List Char) :
    ∃ more, (after session (earlier ++ .request method uri :: later)).answers =
      (after session earlier).answers ++
        answer? method uri ⟨Table.after (earlier.filterMap Deed.call?), session, []⟩ :: more := by
  obtain ⟨more, hmore⟩ := answers_grow session (earlier ++ [.request method uri]) later
  have hanswer : (after session earlier).answer? method uri =
      answer? method uri ⟨Table.after (earlier.filterMap Deed.call?), session, []⟩ := by
    rw [answer?, answer?, view, view, after_table, after_session]
  refine ⟨more, ?_⟩
  rw [List.append_cons, hmore, after_snoc, perform_request, hanswer, List.append_assoc]
  rfl

end Server

section

variable {listed : List RemoteSource} {segment uri : List Char} {s : RemoteSource} {name : String}

def listPath : List Char :=
  pathStart.toList ++ "/sources".toList

def digestPath : List Char :=
  pathStart.toList ++ "/sources/hash".toList

def FirstNamed (listed : List RemoteSource) (name : String) (s : RemoteSource) : Prop :=
  s.name = name ∧ ∃ front back, listed = front ++ s :: back ∧ ∀ s' ∈ front, s'.name ≠ name

def Spells (segment : List Char) (name : String) : Prop :=
  Text.percentDecode (Utf8.encode segment) = Utf8.bytes name

structure ShowsNamed (listed : List RemoteSource) (segment : List Char) (answer : Response) : Prop where
  refused : answer.status = 400 ↔ ¬ ∃ name, Spells segment name
  found : ∀ name, Spells segment name → (∃ s ∈ listed, s.name = name) →
    ∃ s, FirstNamed listed name s ∧ answer.status = 200 ∧ RemoteSource.ofJson answer.body.toList = .ok s
  missing : answer.status = 404 ↔ ∃ name, Spells segment name ∧ ∀ s ∈ listed, s.name ≠ name

structure Shows (server : Server σ) (listed : List RemoteSource) : Prop where
  sources : ∀ uri, uriPath? uri = some listPath → ∃ answer, server.answer? "GET" uri = some answer ∧
    answer.status = 200 ∧ RemoteSource.listOfJson answer.body.toList = .ok listed
  digest : ∀ uri, uriPath? uri = some digestPath → ∃ answer, server.answer? "GET" uri = some answer ∧
    answer.status = 200 ∧ answer.body = digest listed
  named : ∀ uri segment, segment ≠ [] → '/' ∉ segment → segment ≠ "hash".toList →
    uriPath? uri = some (namedStart ++ segment) →
    ∃ answer, server.answer? "GET" uri = some answer ∧ ShowsNamed listed segment answer

theorem Spells.unique {name' : String} (h : Spells segment name) (h' : Spells segment name') : name = name' :=
  Utf8.bytes_injective (Eq.trans (Eq.symm h) h')

theorem firstNamed_iff : FirstNamed listed name s ↔ listed.find? (·.name == name) = some s := by
  simp [FirstNamed, List.find?_eq_some_iff_append]

theorem FirstNamed.mem (h : FirstNamed listed name s) : s ∈ listed := by
  obtain ⟨-, front, back, rfl, -⟩ := h
  simp

theorem find?_unnamed : listed.find? (·.name == name) = none ↔ ∀ s ∈ listed, s.name ≠ name := by
  simp [List.find?_eq_none]

theorem shows_refused (h : ¬ ∃ name, Spells segment name) : ShowsNamed listed segment (.plain 400 nameNotUtf8) where
  refused := ⟨fun _ => h, fun _ => rfl⟩
  found name hname _ := absurd ⟨name, hname⟩ h
  missing := by
    constructor
    · intro hstatus
      exact absurd hstatus (by decide)
    · rintro ⟨name, hname, -⟩
      exact absurd ⟨name, hname⟩ h

theorem shows_missing (hname : Spells segment name) (hnone : ∀ s ∈ listed, s.name ≠ name) :
    ShowsNamed listed segment .notFound where
  refused := by
    constructor
    · intro hstatus
      exact absurd hstatus (by decide)
    · intro h
      exact absurd ⟨name, hname⟩ h
  found name' hname' := by
    rintro ⟨s, hs, rfl⟩
    exact absurd (hname'.unique hname) (hnone s hs)
  missing := ⟨fun _ => ⟨name, hname, hnone⟩, fun _ => rfl⟩

theorem shows_found (hname : Spells segment name) (hfirst : FirstNamed listed name s) (hs : RemoteSource.Timed s) :
    ShowsNamed listed segment (.json (RemoteSource.toJson s)) where
  refused := by
    constructor
    · intro hstatus
      have hwrong : 200 = 400 := hstatus
      exact absurd hwrong (by decide)
    · intro h
      exact absurd ⟨name, hname⟩ h
  found name' hname' _ := by
    cases hname.unique hname'
    have hread := RemoteSource.ofJson_toJson hs
    rw [← String.toList_ofList (l := RemoteSource.toJson s)] at hread
    exact ⟨s, hfirst, rfl, hread⟩
  missing := by
    constructor
    · intro hstatus
      have hwrong : 200 = 404 := hstatus
      exact absurd hwrong (by decide)
    · rintro ⟨name', hname', hnone⟩
      cases hname.unique hname'
      exact absurd hfirst.1 (hnone s hfirst.mem)

theorem sourceNamed_unspelled (h : ¬ ∃ name, Spells segment name) (t : Table Timestamp) :
    (sourceNamed Timestamp.text segment).run t = (.plain 400 nameNotUtf8, t) := by
  rw [sourceNamed]
  cases hdecode : Utf8.decode (Text.percentDecode (Utf8.encode segment)) with
  | error e => rfl
  | ok cs =>
    refine absurd ⟨String.ofList cs, ?_⟩ h
    rw [Spells, Utf8.decode_ok_iff.mp hdecode, Utf8.bytes, String.toList_ofList]

theorem sourceNamed_shows {t : Table Timestamp} (h : ∀ s ∈ t.all, RemoteSource.Timed s) (segment : List Char) :
    ShowsNamed t.all segment ((sourceNamed Timestamp.text segment).run t).1 := by
  by_cases hspells : ∃ name, Spells segment name
  · obtain ⟨name, hname⟩ := hspells
    rw [sourceNamed_decoded Timestamp.text hname]
    cases hget : t.get? name with
    | none => exact shows_missing hname (find?_unnamed.mp hget)
    | some s => exact shows_found hname (firstNamed_iff.mpr hget) (h s (List.mem_of_find?_eq_some hget))
  · rw [sourceNamed_unspelled hspells]
    exact shows_refused hspells

theorem shows_all {server : Server σ} (hfresh : server.table.Fresh)
    (htimes : ∀ s ∈ server.table.all, RemoteSource.Timed s) : Shows server server.table.all where
  sources uri huri := by
    have hroute : Route.ofPath? listPath = some .sources := by decide
    have hanswer : server.answer? "GET" uri =
        some (.json (Json.array (server.table.all.map RemoteSource.toJson))) := by
      rw [Server.answer?, huri, Option.map_some, respond, serve, hroute]
      rfl
    have hread := RemoteSource.listOfJson_array htimes
    rw [← String.toList_ofList (l := Json.array _)] at hread
    exact ⟨_, hanswer, rfl, hread⟩
  digest uri huri := by
    have hroute : Route.ofPath? digestPath = some .digest := by decide
    have hanswer : server.answer? "GET" uri = some (.plain 200 server.table.published) := by
      rw [Server.answer?, huri, Option.map_some, respond, serve, hroute]
      rfl
    exact ⟨_, hanswer, rfl, hfresh⟩
  named uri segment hne hslash hhash huri := by
    have hroute := ofPath?_source hne hslash
    rw [if_neg hhash] at hroute
    have hanswer : server.answer? "GET" uri = some ((sourceNamed Timestamp.text segment).run server.table).1 := by
      rw [Server.answer?, huri, Option.map_some, respond, serve, hroute]
      rfl
    exact ⟨_, hanswer, sourceNamed_shows htimes segment⟩

theorem view_faithful (session : Session.State σ) (deeds : List Deed) (h : Clocked (deeds.filterMap Deed.call?)) :
    let server := Server.after session deeds
    (server.table = Table.after (deeds.filterMap Deed.call?) ∧ server.session = session) ∧
    (∀ earlier method uri later, deeds = earlier ++ .request method uri :: later →
      ∃ more, server.answers = (Server.after session earlier).answers ++
        Server.answer? method uri ⟨Table.after (earlier.filterMap Deed.call?), session, []⟩ :: more) ∧
    ∃ listed : List RemoteSource, listed.Perm server.table.entries ∧
      (listed.Pairwise fun s s' => keyLt s.key s'.key) ∧ Shows server listed := by
  intro server
  have htable : server.table = Table.after (deeds.filterMap Deed.call?) := Server.after_table session deeds
  have hheld := held_after (deeds.filterMap Deed.call?)
  rw [← htable] at hheld
  have htimes : ∀ s ∈ server.table.all, RemoteSource.Timed s := by
    intro s hs
    rw [htable, Table.mem_all] at hs
    exact timed_entries h hs
  refine ⟨⟨htable, Server.after_session session deeds⟩, ?_, server.table.all, ?_, ?_, ?_⟩
  · rintro earlier method uri later rfl
    exact Server.answered_at session earlier later method uri
  · exact List.mergeSort_perm _ _
  · exact sort_strict hheld.keys
  · exact shows_all hheld.fresh htimes

end

def studioSeen : Timestamp :=
  ⟨⟨2024, 2, 29⟩, 86399, 1000000000⟩

def studioStored : RemoteSource :=
  ⟨"studio", "local", described.url, described.sdp, described.sessionName, studioSeen, studioSeen⟩

def studioDeeds : List Deed :=
  [.call (.deliver studioSeen "studio" "local" described), .request "DELETE" "/v1/sources/studio".toList,
    .call (.remove "studio" "elsewhere"), .request "GET" "/v1/sources".toList]

theorem view_faithful_studio :
    Clocked (studioDeeds.filterMap Deed.call?) ∧
    let server := Server.after ({ provider := () } : Session.State Unit) studioDeeds
    server.table.entries = [studioStored] ∧
      (∃ answer, server.answer? "GET" "/v1/sources?all".toList = some answer ∧ answer.status = 200 ∧
        RemoteSource.listOfJson answer.body.toList = .ok [studioStored]) ∧
      (∃ answer, server.answer? "GET" "/v1/sources/hash".toList = some answer ∧ answer.body = digest [studioStored]) ∧
      (∃ answer, server.answer? "GET" "/v1/sources/stu%64io".toList = some answer ∧ answer.status = 200 ∧
        RemoteSource.ofJson answer.body.toList = .ok studioStored) ∧
      (∃ answer, server.answer? "GET" "/v1/sources/%FF".toList = some answer ∧ answer.status = 400) := by
  have hclocked : Clocked (studioDeeds.filterMap Deed.call?) := by
    intro now name domain d hcall
    have hmem : .deliver now name domain d ∈
        [Call.deliver studioSeen "studio" "local" described, .remove "studio" "elsewhere"] := hcall
    simp only [List.mem_cons, Call.deliver.injEq, reduceCtorEq, List.not_mem_nil, or_false] at hmem
    rw [hmem.1]
    decide
  obtain ⟨-, -, listed, hstored, -, hshows⟩ :=
    view_faithful ({ provider := () } : Session.State Unit) studioDeeds hclocked
  have hentries : (Server.after ({ provider := () } : Session.State Unit) studioDeeds).table.entries = [studioStored] :=
    rfl
  rw [hentries, List.perm_singleton] at hstored
  subst hstored
  have hname : Spells "stu%64io".toList "studio" := rfl
  have hnameless : ¬ ∃ name, Spells "%FF".toList name := by
    rintro ⟨name, hname⟩
    have hdecode : Utf8.decode (Text.percentDecode (Utf8.encode "%FF".toList)) = .error ⟨0, some 1⟩ := rfl
    exact Utf8.ne_encode_of_error hdecode name.toList hname
  obtain ⟨shown, hshown, hnamed⟩ := hshows.named "/v1/sources/stu%64io".toList "stu%64io".toList (by decide)
    (by decide) (by decide) (by decide)
  obtain ⟨s, hfirst, hstatus, hread⟩ := hnamed.found "studio" hname ⟨studioStored, by simp, rfl⟩
  obtain ⟨wrong, hwrong, hrefused⟩ := hshows.named "/v1/sources/%FF".toList "%FF".toList (by decide)
    (by decide) (by decide) (by decide)
  cases List.mem_singleton.mp hfirst.mem
  obtain ⟨hash, hhash, -, hbody⟩ := hshows.digest "/v1/sources/hash".toList (by decide)
  exact ⟨hclocked, hentries, hshows.sources "/v1/sources?all".toList (by decide), ⟨hash, hhash, hbody⟩,
    ⟨shown, hshown, hstatus, hread⟩, ⟨wrong, hwrong, hrefused.refused.mpr hnameless⟩⟩

end StreamScout.Api
