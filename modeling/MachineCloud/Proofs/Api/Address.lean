import MachineCloud.Proofs.Api.Operation
import MachineCloud.Proofs.Text.Percent

/-!
# What a request addresses

The path of a request is made of fixed words and of the arguments of the call, each in its
percent-coded form, with slashes between them.  A coded segment has no slash in it, so the path is cut
into its segments again and these are read back (`map_decodeChars?_splitOn_path`).  The words and their
number tell the six calls apart, up to those with the same path that differ in the method
(`Target.eq_of_method_of_segments`).
-/

namespace MachineCloud

/-! ## Targets -/

/-- What a call of the API is aimed at: the operation with the arguments that go into its path. -/
inductive Target where
  | createServer (project region : String)
  | getServer (project region server : String)
  | deleteServer (project region server : String)
  | listServers (project region : String)
  | listNics (project region server : String)
  | updateNic (project region network nic : String)
deriving DecidableEq

/-- The segments of a path in a project and region. -/
def Handle.segments (project region : String) (parts : List String) : List String :=
  apiVersion :: "projects" :: project :: "regions" :: region :: parts

namespace Target

def method : Target → String
  | createServer .. => "POST"
  | getServer .. => "GET"
  | deleteServer .. => "DELETE"
  | listServers .. => "GET"
  | listNics .. => "GET"
  | updateNic .. => "PATCH"

/-- The fixed words and the arguments, in the order in which the path has them. -/
def segments : Target → List String
  | createServer project region => Handle.segments project region ["servers"]
  | getServer project region server => Handle.segments project region ["servers", server]
  | deleteServer project region server => Handle.segments project region ["servers", server]
  | listServers project region => Handle.segments project region ["servers"]
  | listNics project region server => Handle.segments project region ["servers", server, "nics"]
  | updateNic project region network nic =>
    Handle.segments project region ["networks", network, "nics", nic]

/-- No two targets share both the method and the segments, whatever the arguments are. -/
theorem eq_of_method_of_segments {s t : Target} (hmethod : s.method = t.method)
    (hsegments : s.segments = t.segments) : s = t := by
  cases s <;> cases t <;> simp_all [method, segments, Handle.segments]

/-- The path of a target. -/
def path (t : Target) : String := String.intercalate "/" (t.segments.map Percent.encode)

/-- Cutting a path at its slashes gives the coded segments. -/
theorem splitOn_path (t : Target) :
    t.path.toList.splitOn '/' = t.segments.map fun s => Percent.encodeChars s.toList := by
  have htexts : (t.segments.map Percent.encode).map String.toList =
      t.segments.map fun s => Percent.encodeChars s.toList := by
    simp [Percent.encode, Function.comp_def]
  have hslash : ∀ cs ∈ t.segments.map fun s => Percent.encodeChars s.toList, '/' ∉ cs := by
    intro cs hcs
    obtain ⟨s, -, rfl⟩ := List.mem_map.mp hcs
    exact (Percent.isCoded_encodeChars s.toList).slash_notMem
  have hne : (t.segments.map fun s => Percent.encodeChars s.toList) ≠ [] := by
    cases t <;> exact List.cons_ne_nil _ _
  rw [path, String.toList_intercalate, htexts]
  exact List.splitOn_intercalate '/' hslash hne

/-- Each piece of a path is coded. -/
theorem isCoded_of_mem_splitOn_path {t : Target} {piece : List Char}
    (h : piece ∈ t.path.toList.splitOn '/') : Percent.IsCoded piece := by
  rw [splitOn_path] at h
  obtain ⟨s, -, rfl⟩ := List.mem_map.mp h
  exact Percent.isCoded_encodeChars s.toList

/-- Decoding the pieces of a path gives the segments. -/
theorem map_decodeChars?_splitOn_path (t : Target) :
    (t.path.toList.splitOn '/').map Percent.decodeChars? = t.segments.map (some ·.toList) := by
  rw [splitOn_path, List.map_map]
  exact List.map_congr_left fun s _ => Percent.decodeChars?_encodeChars s.toList

/-- No two targets share both the method and the path. -/
theorem eq_of_method_of_path {s t : Target} (hmethod : s.method = t.method)
    (hpath : s.path = t.path) : s = t := by
  have hread : s.segments.map (some ·.toList) = t.segments.map (some ·.toList) := by
    rw [← map_decodeChars?_splitOn_path, hpath, map_decodeChars?_splitOn_path]
  have hinj (a b : String) (h : some a.toList = some b.toList) : a = b :=
    String.toList_inj.mp (Option.some.inj h)
  exact eq_of_method_of_segments hmethod ((List.map_inj_right hinj).mp hread)

end Target

/-! ## Calls -/

/-- A call of the API.  Only what goes into the path has to be a text. -/
inductive ApiCall where
  | createServer (project region : String) (payload : Value)
  | getServer (project region server : String)
  | deleteServer (project region server : String)
  | listServers (project region : String) (selector details : Value)
  | listNics (project region server : String)
  | updateNic (project region network nic : String) (payload : Value)

/-- With texts only, the path of something in a project and region never fails. -/
theorem Handle.path_of_texts (project region : String) (parts : List String) :
    path (.str project) (.str region) (parts.map .str) =
      .ok (String.intercalate "/" ((segments project region parts).map Percent.encode)) := by
  have htexts : (.str apiVersion :: .str "projects" :: .str project :: .str "regions" ::
      .str region :: parts.map Value.str) = (segments project region parts).map .str := rfl
  have hcoded : ((segments project region parts).map Value.str).mapM segment =
      pure ((segments project region parts).map Percent.encode) := by
    rw [List.mapM_map]
    exact List.mapM_pure
  rw [path, htexts, hcoded]
  rfl

/-- So the request is sent. -/
theorem Handle.call_of_texts (h : Handle) (method project region : String) (parts : List String)
    (params : Option (Entries Value)) (payload : Option Value) :
    h.call method (.str project) (.str region) (parts.map .str) params payload =
      h.send method (String.intercalate "/" ((segments project region parts).map Percent.encode))
        params payload := by
  rw [call, path_of_texts]
  rfl

namespace ApiCall

/-- Makes the call. -/
def perform (h : Handle) : ApiCall → Action Value
  | createServer project region payload => h.createServer (.str project) (.str region) payload
  | getServer project region server => h.getServer (.str project) (.str region) (.str server)
  | deleteServer project region server =>
    (fun _ => .null) <$> h.deleteServer (.str project) (.str region) (.str server)
  | listServers project region selector details =>
    h.listServers (.str project) (.str region) selector details
  | listNics project region server => h.listNics (.str project) (.str region) (.str server)
  | updateNic project region network nic payload =>
    h.updateNic (.str project) (.str region) (.str network) (.str nic) payload

def target : ApiCall → Target
  | createServer project region _ => .createServer project region
  | getServer project region server => .getServer project region server
  | deleteServer project region server => .deleteServer project region server
  | listServers project region _ _ => .listServers project region
  | listNics project region server => .listNics project region server
  | updateNic project region network nic _ => .updateNic project region network nic

/-- The query that goes with the call. -/
def params : ApiCall → Option (Entries Value)
  | listServers _ _ selector details => Handle.listQuery selector details
  | _ => none

/-- The payload that goes with the call. -/
def payload : ApiCall → Option Value
  | createServer _ _ payload => some payload
  | updateNic _ _ _ _ payload => some payload
  | _ => none

/-- What the call asks. -/
def inquiry (c : ApiCall) : Inquiry := ⟨c.target.method, c.target.path, c.params, c.payload⟩

/-- What the call makes of the value of a response. -/
def finish : ApiCall → Value → Value
  | deleteServer .. => fun _ => .null
  | _ => Handle.orEmptyMap

/-- A call sends one request, to the path of its target. -/
theorem perform_eq (h : Handle) (c : ApiCall) :
    c.perform h = c.finish <$> h.sendInquiry c.inquiry := by
  cases c with
  | createServer project region payload =>
    exact congrArg (Handle.orEmptyMap <$> ·)
      (h.call_of_texts "POST" project region ["servers"] none (some payload))
  | getServer project region server =>
    exact congrArg (Handle.orEmptyMap <$> ·)
      (h.call_of_texts "GET" project region ["servers", server] none none)
  | deleteServer project region server =>
    have hcall := h.call_of_texts "DELETE" project region ["servers", server] none none
    exact (Functor.map_map _ _ _).trans (congrArg ((fun _ => Value.null) <$> ·) hcall)
  | listServers project region selector details =>
    exact congrArg (Handle.orEmptyMap <$> ·)
      (h.call_of_texts "GET" project region ["servers"] (Handle.listQuery selector details) none)
  | listNics project region server =>
    exact congrArg (Handle.orEmptyMap <$> ·)
      (h.call_of_texts "GET" project region ["servers", server, "nics"] none none)
  | updateNic project region network nic payload =>
    exact congrArg (Handle.orEmptyMap <$> ·)
      (h.call_of_texts "PATCH" project region ["networks", network, "nics", nic] none
        (some payload))

/-- Whether a call sends a request, made with a handle in a world. -/
def Sends (c : ApiCall) (h : Handle) (w : World) (r : Request) : Prop :=
  .request r ∈ ((c.perform h).run w).2.log.drop w.log.length

end ApiCall

/-- Whatever is sent for an inquiry besides a request for a token is the request of the inquiry. -/
theorem Handle.eq_request_of_mem_sendInquiry {h : Handle} {i : Inquiry} {w : World} {r : Request}
    (hmem : .request r ∈ ((h.sendInquiry i).run w).2.log.drop w.log.length) :
    ∃ authorization, r = i.request h authorization := by
  obtain ⟨tokens, requests, htokens, hrequests, hlog⟩ := h.log_sendInquiry i w
  rw [hlog, List.drop_left] at hmem
  rcases List.mem_append.mp hmem with hmem | hmem
  · exact absurd hmem (htokens.request_notMem r)
  · rcases hrequests with rfl | ⟨authorization, rfl⟩
    · cases hmem
    · cases List.mem_singleton.mp hmem
      exact ⟨authorization, rfl⟩

namespace ApiCall

/-- A request that a call sends has the method and the path of the call's target. -/
theorem Sends.method_and_url {c : ApiCall} {h : Handle} {w : World} {r : Request}
    (hsent : c.Sends h w r) :
    r.method = c.target.method ∧ r.url = h.endpoint ++ "/" ++ c.target.path := by
  rw [Sends, perform_eq, Action.run_map] at hsent
  obtain ⟨authorization, rfl⟩ := Handle.eq_request_of_mem_sendInquiry hsent
  exact ⟨rfl, rfl⟩

/-- A request addresses just what its call names.  Behind the endpoint and a slash, its path consists of
coded pieces between slashes, and the pieces decode to the fixed words and the arguments in order.  Any
call that sends the same method and URL to the same endpoint has the same target, with whatever handle,
world, payload and query. -/
theorem Sends.addresses_target {c : ApiCall} {h : Handle} {w : World} {r : Request}
    (hsent : c.Sends h w r) :
    (∃ path, r.url = h.endpoint ++ "/" ++ path ∧
      (∀ piece ∈ path.toList.splitOn '/', Percent.IsCoded piece) ∧
      (path.toList.splitOn '/').map Percent.decodeChars? =
        c.target.segments.map (some ·.toList)) ∧
    ∀ (c' : ApiCall) (h' : Handle) (w' : World) (r' : Request), h'.endpoint = h.endpoint →
      c'.Sends h' w' r' → r'.method = r.method → r'.url = r.url → c'.target = c.target := by
  obtain ⟨hmethod, hurl⟩ := hsent.method_and_url
  refine ⟨⟨c.target.path, hurl, fun _ => Target.isCoded_of_mem_splitOn_path,
    c.target.map_decodeChars?_splitOn_path⟩, ?_⟩
  intro c' h' w' r' hendpoint hsent' hmethods hurls
  obtain ⟨hmethod', hurl'⟩ := hsent'.method_and_url
  refine Target.eq_of_method_of_path (hmethod' ▸ hmethod ▸ hmethods) ?_
  rw [hurl, hurl', hendpoint] at hurls
  exact (String.append_right_inj _).mp hurls

/-- A server whose project has a slash in it, and which is called like the directory above. -/
theorem Sends.addresses_target_of_slash :
    let c := ApiCall.getServer "a/b" "eu01" ".."
    let h : Handle := { endpoint := "https://iaas.test" }
    let url := "https://iaas.test/v2/projects/a%2Fb/regions/eu01/servers/.."
    c.Sends h {} ⟨"GET", url, none, none, true, 30, none⟩ ∧
      ∀ (c' : ApiCall) (h' : Handle) (w' : World) (r' : Request), h'.endpoint = h.endpoint →
        c'.Sends h' w' r' → r'.method = "GET" → r'.url = url → c'.target = c.target := by
  intro c h url
  have hsent : c.Sends h {} ⟨"GET", url, none, none, true, 30, none⟩ := by
    have hurl : url = h.endpoint ++ "/" ++ c.target.path := by decide
    rw [hurl]
    exact List.mem_singleton.mpr rfl
  exact ⟨hsent, hsent.addresses_target.2⟩

end ApiCall

end MachineCloud
