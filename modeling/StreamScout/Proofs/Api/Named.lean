import Mathlib.Data.List.Basic
import StreamScout.Api.Response
import StreamScout.Api.Uri
import StreamScout.Proofs.Source.History
import StreamScout.Proofs.Text.Blank
import StreamScout.Proofs.Text.Percent

namespace StreamScout.Source.Table

variable {τ : Type} {t : Table τ} {s s' : Source τ} {name : String}

end StreamScout.Source.Table

namespace StreamScout.Api

open StreamScout.Source (Call Table)

variable {τ : Type} {c : Char} {cs : List Char} {bs : List UInt8} {name : String} {v : View τ}

def namedStart : List Char :=
  pathStart.toList ++ "/sources/".toList

theorem ofPath?_source (hne : cs ≠ []) (hslash : '/' ∉ cs) :
    Route.ofPath? (namedStart ++ cs) = some (if cs = "hash".toList then .digest else .source cs) := by
  have hstart : Text.after? pathStart.toList (namedStart ++ cs) = some ("/sources/".toList ++ cs) :=
    Text.after?_eq_some_iff.mpr (List.append_assoc ..)
  have hname : Text.after? "/sources/".toList ("/sources/".toList ++ cs) = some cs :=
    Text.after?_eq_some_iff.mpr rfl
  have hstatus : "/sources/".toList ++ cs ≠ "/status".toList := by simp
  have hlist : "/sources/".toList ++ cs ≠ "/sources".toList := by simp
  have hdigest : "/sources/".toList ++ cs = "/sources/hash".toList ↔ cs = "hash".toList :=
    List.append_right_inj "/sources/".toList
  rw [Route.ofPath?, hstart]
  simp only [hstatus, hlist, hdigest, hname, if_false]
  split
  · rfl
  · simp [hne, hslash]

theorem sourceNamed_decoded {segment : List Char} (writeTime : τ → String)
    (h : Text.percentDecode (Utf8.encode segment) = Utf8.bytes name) (t : Table τ) :
    (sourceNamed writeTime segment).run t = (shown writeTime (t.get? name), t) := by
  have hdecode : Utf8.decode (Text.percentDecode (Utf8.encode segment)) = .ok name.toList := Utf8.decode_ok_iff.mpr h
  rw [sourceNamed, hdecode]
  change (shown writeTime (t.get? (String.ofList name.toList)), t) = _
  rw [String.ofList_toList]

section

variable (writeTime : τ → String) (calls : List (Call τ)) (running : Bool) (pendingProbes : Nat) {s : Source τ}

end

def described : Rtsp.Description :=
  .ofSdp "rtsp://10.0.0.5:8554/by-name/x" "v=0\r\ns=Studio One\r\n"

end StreamScout.Api
