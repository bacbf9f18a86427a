import BalancerClient.Proofs.Exchange.Onward
import BalancerClient.Proofs.Http.Origin
import BalancerClient.Proofs.Http.Target
import BalancerClient.Proofs.Json.RoundTrip
import BalancerClient.Proofs.Request.Sources

/-!
# What is signed is what is carried

A provider of credentials signs names and texts; what travels is a target and a body in which
they are encoded.  A server that decodes them finds the parameters that were signed, whatever
characters they hold: the query is a form, and the body is a form or a JSON object.

The path is another matter.  It is signed as the descriptor has it, and travels as the path of
the URL that it is read into, which may percent-encode it, cut a query off it or leave
segments out.  Only a plain path travels as it is signed.

## Main definitions

* `BodyType.decode?` - the pairs in a body.
* `HttpRequest.CarriesTo` - a request holds what was signed, at the path of a URL.
* `HttpRequest.Carries` - a request holds what was signed, at the path that was signed.
* `Credentials.Succeeds` - a provider that signs everything and leaves the transport alone.
* `Connection.SendsSigned` - what becomes of a request that is signed.

## Main statements

* `BodyType.decode?_encode` - a body is read back.
* `Connection.carriesTo_of_httpRequest?` - what goes out holds what was signed.
* `Connection.sign_carries` - what becomes of the requests to an origin.
-/

namespace BalancerClient

/-! ## Bodies -/

/-- A member of an object as a pair, if it holds a text. -/
def textMember? : String × Json → Option (String × String)
  | (name, .str text) => some (name, text)
  | _ => none

/-- The pairs in a body; a body without octets holds none. -/
def BodyType.decode? : BodyType → Bytes → Option (List (String × String))
  | .formData, bytes => (Utf8.decode? bytes).bind Form.decode?
  | .json, bytes =>
    if bytes.isEmpty then some []
    else
      match Json.parse bytes with
      | .ok (.obj members) => members.mapM textMember?
      | _ => none

/-- The texts of an object with one text for each parameter are read back. -/
theorem mapM_textMember? (entries : List (String × String)) :
    (entries.map fun e => (e.1, Json.str e.2)).mapM textMember? = some entries := by
  induction entries with
  | nil => rfl
  | cons e rest ih =>
    rw [List.map_cons, List.mapM_cons, ih]
    rfl

/-- A JSON body is read back as the object of its parameters. -/
theorem parse_encode_json (p : Parameters) :
    Json.parse (BodyType.json.encode p) =
      .ok (.obj (p.entries.map fun e => (e.1, .str e.2))) := by
  have hmember : ∀ m ∈ p.entries.map fun e => (e.1, Json.str e.2), ∃ text, m.2 =
      .str text := by
    intro m hm
    obtain ⟨e, -, rfl⟩ := List.mem_map.1 hm
    exact ⟨e.2, rfl⟩
  apply Json.parse_compact
  · rw [Json.hasDistinctNames_obj]
    constructor
    · rw [List.map_map]
      exact p.nodup_map_fst_entries
    · intro m hm
      obtain ⟨text, htext⟩ := hmember m hm
      rw [htext]
      rfl
  · rw [Json.isIntegral_obj]
    intro m hm
    obtain ⟨text, htext⟩ := hmember m hm
    rw [htext]
    rfl
  · have hdepth : Json.nestingMembers (p.entries.map fun e => (e.1, Json.str e.2)) ≤ 126 := by
      rw [Json.nestingMembers_le_iff]
      intro m hm
      obtain ⟨text, htext⟩ := hmember m hm
      rw [htext]
      exact Nat.zero_le _
    exact Nat.succ_le_succ hdepth

/-- A body is read back. -/
theorem BodyType.decode?_encode (type : BodyType) (p : Parameters) :
    type.decode? (type.encode p) = some p.entries := by
  cases type with
  | formData =>
    show (Utf8.decode? (Utf8.encode (Form.encode p.entries))).bind Form.decode? = _
    rw [Utf8.decode?_encode, Option.bind_some, Form.decode?_encode]
  | json =>
    have hparse := parse_encode_json p
    have hne : ¬ (BodyType.json.encode p).isEmpty = true := by
      intro hempty
      rw [List.isEmpty_iff.1 hempty] at hparse
      cases hparse
    rw [decode?, if_neg hne, hparse]
    exact mapM_textMember? p.entries

/-! ## Requests -/

/-- The path that a request asks for. -/
def HttpRequest.pathname (r : HttpRequest) : String :=
  String.ofList (r.target.toList.takeWhile (· != '?'))

/-- A request to a URL holds what was signed: a server that decodes it finds the parameters of
the query, behind those that the URL has there, and those of the body, in the order of their
names.  One of the two are none. -/
structure HttpRequest.CarriesTo (r : HttpRequest) (u : Url) (type : BodyType)
    (s : SigningRequest) : Prop where
  method : r.method = s.method
  pathname : r.pathname = String.ofList u.path
  query : Form.decode? (EchoServer.queryText r.target) =
    (Form.decode? (String.ofList (u.query?.getD []))).map (· ++ s.query.entries)
  ascending : s.query.entries.Pairwise fun a b => Utf8.encode a.1 < Utf8.encode b.1
  noMark : u.query? = none → s.query.isEmpty = true → '?' ∉ r.target.toList
  body : type.decode? r.body = some s.body.entries
  lenientBody : type = .formData → Form.decode (Form.ofOctets r.body) = s.body.entries
  noBody : s.body.isEmpty = true → r.body = []
  onePlace : s.query.isEmpty = true ∨ s.body.isEmpty = true

/-- A request holds what was signed: it asks for the path that was signed, and a server that
decodes it, strictly or leniently, finds the parameters of the query and of the body and no
others. -/
structure HttpRequest.Carries (r : HttpRequest) (type : BodyType) (s : SigningRequest) :
    Prop where
  method : r.method = s.method
  pathname : r.pathname = s.pathname
  query : Form.decode? (EchoServer.queryText r.target) = some s.query.entries
  lenientQuery : Form.decode (EchoServer.queryText r.target).toList = s.query.entries
  ascending : s.query.entries.Pairwise fun a b => Utf8.encode a.1 < Utf8.encode b.1
  noMark : s.query.isEmpty = true → '?' ∉ r.target.toList
  body : type.decode? r.body = some s.body.entries
  lenientBody : type = .formData → Form.decode (Form.ofOctets r.body) = s.body.entries
  noBody : s.body.isEmpty = true → r.body = []
  onePlace : s.query.isEmpty = true ∨ s.body.isEmpty = true

/-- At a URL whose path is the one that was signed, and that has no query, this is the
same. -/
theorem HttpRequest.CarriesTo.carries {r : HttpRequest} {u : Url} {type : BodyType}
    {s : SigningRequest} (h : r.CarriesTo u type s) (hpath : u.path = s.pathname.toList)
    (hquery : u.query? = none) : r.Carries type s := by
  have hnone : Form.decode? (String.ofList []) = some [] := rfl
  have hread : Form.decode? (EchoServer.queryText r.target) = some s.query.entries := by
    rw [h.query, hquery, Option.getD_none, hnone, Option.map_some, List.nil_append]
  exact {
    method := h.method
    pathname := by rw [h.pathname, hpath, String.ofList_toList]
    query := hread
    lenientQuery := Form.decode_of_decode? hread
    ascending := h.ascending
    noMark := h.noMark hquery
    body := h.body
    lenientBody := h.lenientBody
    noBody := h.noBody
    onePlace := h.onePlace }

/-- The header fields that the transport sets itself. -/
def transportFields : List String := ["host", "content-length", "transfer-encoding"]

/-- A provider signs every request, and leaves the fields of the transport alone. -/
def Credentials.Succeeds (c : Credentials) : Prop :=
  ∀ s, ∃ fields, c.headers s = .ok fields ∧ ∀ name ∈ transportFields, fields.has name = false

/-- The usual descriptors ask for the root. -/
theorem Descriptor.isPlainPath_rpc (action version : String) (method : Method) :
    Url.IsPlainPath (rpc action version method).pathname :=
  Url.isPlainPath_root

namespace Connection

variable {c : Connection} {w : WireRequest} {headers : Headers} {r : HttpRequest}

/-- A request goes out if and only if the transport takes its URL. -/
theorem isSome_httpRequest?_iff : (c.httpRequest? w headers).isSome = true ↔
    ∃ u, Url.parse (c.endpoint ++ w.descriptor.pathname) = .ok u ∧
      u.isTaken w.query.entries = true := by
  rw [httpRequest?]
  cases hu : Url.parse (c.endpoint ++ w.descriptor.pathname) with
  | error fault => simp [Except.toOption]
  | ok u =>
    by_cases htaken : u.isTaken w.query.entries = true
    · simp [Except.toOption, Url.target?, htaken]
    · simp [Except.toOption, Url.target?, htaken]

/-- What goes out. -/
theorem eq_of_httpRequest? (h : c.httpRequest? w headers = some r) :
    ∃ u, Url.parse (c.endpoint ++ w.descriptor.pathname) = .ok u ∧
      u.isTaken w.query.entries = true ∧ r =
        if w.body.isEmpty then
          ⟨w.descriptor.method, String.ofList (u.targetText w.query.entries),
            u.userFields.override headers, []⟩
        else
          ⟨w.descriptor.method, String.ofList (u.targetText w.query.entries),
            describeBody w.descriptor.reqBodyType (u.userFields.override headers),
            w.descriptor.reqBodyType.encode w.body⟩ := by
  simp only [httpRequest?, Option.bind_eq_bind, Option.bind_eq_some_iff, Option.pure_def,
    Option.some.injEq] at h
  obtain ⟨u, hu, target, htarget, rfl⟩ := h
  rw [Url.target?] at htarget
  split at htarget
  · next htaken =>
    obtain rfl := Option.some.inj htarget
    refine ⟨u, ?_, htaken, rfl⟩
    cases hparse : Url.parse (c.endpoint ++ w.descriptor.pathname) with
    | error fault =>
      rw [hparse] at hu
      cases hu
    | ok found =>
      rw [hparse] at hu
      rw [Option.some.inj hu]
  · cases htarget

/-- What goes out holds what was signed, wherever it goes. -/
theorem carriesTo_of_httpRequest? (h : c.httpRequest? w headers = some r)
    (hplaced : w.IsPlaced) (signed : Headers) :
    ∃ u, Url.parse (c.endpoint ++ w.descriptor.pathname) = .ok u ∧
      r.CarriesTo u w.descriptor.reqBodyType (signing w signed) := by
  obtain ⟨u, hu, -, rfl⟩ := eq_of_httpRequest? h
  refine ⟨u, hu, ?_⟩
  have honePlace : w.query.isEmpty = true ∨ w.body.isEmpty = true := by
    cases hloc : w.descriptor.location with
    | query => exact .inr (by rw [(hplaced.1 hloc).2]; rfl)
    | body => exact .inl (by rw [(hplaced.2 hloc).1]; rfl)
  have hpathname :
      String.ofList ((String.ofList (u.targetText w.query.entries)).toList.takeWhile
      (· != '?')) = String.ofList u.path := by
    rw [String.toList_ofList, u.takeWhile_targetText]
  have hnoMark : u.query? = none → w.query.isEmpty = true →
      '?' ∉ (String.ofList (u.targetText w.query.entries)).toList := by
    intro hquery hempty
    rw [String.toList_ofList]
    exact u.mark_notMem_targetText _ hquery (List.isEmpty_iff.1 hempty)
  by_cases hbody : w.body.isEmpty = true
  · have hentries : w.body.entries = [] := List.isEmpty_iff.1 hbody
    rw [if_pos hbody]
    exact {
      method := rfl
      pathname := hpathname
      query := u.decode?_queryText w.query.entries
      ascending := w.query.ascending
      noMark := hnoMark
      body := by
        show _ = some w.body.entries
        rw [hentries]
        cases w.descriptor.reqBodyType <;> rfl
      lenientBody := by
        intro _
        show _ = w.body.entries
        rw [hentries]
        rfl
      noBody := fun _ => rfl
      onePlace := honePlace }
  · rw [if_neg hbody]
    exact {
      method := rfl
      pathname := hpathname
      query := u.decode?_queryText w.query.entries
      ascending := w.query.ascending
      noMark := hnoMark
      body := BodyType.decode?_encode _ w.body
      lenientBody := by
        intro htype
        rw [htype]
        exact Form.decode_ofOctets_encode w.body.entries
      noBody := fun hempty => absurd hempty hbody
      onePlace := honePlace }

/-- An endpoint that is an origin, with any number of slashes behind it, can be connected
to. -/
theorem ofSettings_of_origin {s : Settings} {o : Origin} {n : Nat}
    (hendpoint : s.endpoint = some (o.text ++ String.ofList (List.replicate n '/')))
    (platform : Platform) (info : ServiceInfo) (env : Environment) :
    ofSettings platform info env s =
      .ok ⟨o.text, BalancerClient.userAgent platform info,
        s.credentials.getD .anonymous⟩ := by
  obtain ⟨u, hu⟩ := o.accepted
  have hparse : Url.parse o.text = .ok u := hu
  have hresolve : s.resolveEndpoint env info = o.text := by
    rw [Settings.resolveEndpoint, hendpoint]
    exact o.trimSlashes_append n
  simp only [ofSettings, hresolve, hparse]

/-- What becomes of a request that is signed, at an endpoint that is an origin. -/
structure SendsSigned (c : Connection) (w : WireRequest) (signed : SigningRequest)
    (request? : Option HttpRequest) : Prop where
  /-- It goes out if and only if the transport takes its URL. -/
  goesOut : request?.isSome = true ↔ ∃ u, Url.parse (c.endpoint ++ w.descriptor.pathname) =
    .ok u ∧ u.isTaken w.query.entries = true
  /-- A plain path is read into a URL. -/
  read : Url.IsPlainPath w.descriptor.pathname →
    ∃ u, Url.parse (c.endpoint ++ w.descriptor.pathname) = .ok u
  /-- What goes out holds what was signed, at the path of its URL. -/
  carriesTo : ∀ r, request? = some r →
    ∃ u, Url.parse (c.endpoint ++ w.descriptor.pathname) = .ok u ∧
      r.CarriesTo u w.descriptor.reqBodyType signed
  /-- If the path is plain, it holds all that was signed. -/
  carries : ∀ r, request? = some r → Url.IsPlainPath w.descriptor.pathname →
    r.Carries w.descriptor.reqBodyType signed
  /-- It arrives, before all that the reply to it leads to. -/
  arrives : ∀ r, request? = some r → ∀ {α : Type} (reader : BodyReader α) (network : Network),
    network.reachable = true → ∃ led,
      ((Attempt.ready w signed request?).perform reader network).2.received =
        network.received ++ r :: led

/-- What goes out to an origin, for a request in wire form whose parameters are in one
place. -/
theorem sendsSigned_httpRequest? {o : Origin} (hendpoint : c.endpoint = o.text)
    (hplaced : w.IsPlaced) (headers signed : Headers) :
    c.SendsSigned w (signing w signed) (c.httpRequest? w headers) where
  goesOut := isSome_httpRequest?_iff
  read := by
    intro hpath
    obtain ⟨u, hu, -⟩ := o.exists_parse_append hpath
    exact ⟨u, by rw [hendpoint, hu]⟩
  carriesTo _ hr := carriesTo_of_httpRequest? hr hplaced signed
  carries := by
    intro r hr hpath
    obtain ⟨u, hu, hcarries⟩ := carriesTo_of_httpRequest? hr hplaced signed
    obtain ⟨u', hu', hpath', hquery, -⟩ := o.exists_parse_append hpath
    rw [hendpoint, hu'] at hu
    obtain rfl := Except.ok.inj hu
    exact hcarries.carries hpath' hquery
  arrives := by
    intro r hr α reader network hreachable
    rw [hr]
    exact network.exists_received_deliver r hreachable

/-- Every request in wire form that was assembled for an origin is signed and sent so.  Only
header fields that cannot be written keep it from being signed. -/
theorem sign_carries {s : Settings} {o : Origin} {n : Nat}
    (hendpoint : s.endpoint = some (o.text ++ String.ofList (List.replicate n '/')))
    (hprovider : (s.credentials.getD .anonymous).Succeeds) {d : Descriptor} {v : Json}
    {w : WireRequest}
    (hw : WireRequest.assemble d v = .ok w) (platform : Platform) (info : ServiceInfo)
    (env : Environment) :
    w.descriptor = d ∧ ∃ c, ofSettings platform info env s = .ok c ∧ c.endpoint = o.text ∧
      ∀ (stamp : Stamp) (options : RequestOptions),
        (∃ error, c.libraryHeaders stamp d options = .error error ∧
          c.sign stamp w options = .refused error) ∨
        ∃ headers request?, c.libraryHeaders stamp d options = .ok headers ∧
          c.sign stamp w options = .ready w (signing w headers) request? ∧
          c.SendsSigned w (signing w headers) request? := by
  obtain ⟨rfl, hplaced⟩ := WireRequest.descriptor_of_assemble hw
  refine ⟨rfl, _, ofSettings_of_origin hendpoint platform info env, rfl, ?_⟩
  intro stamp options
  generalize hc : Connection.mk o.text (BalancerClient.userAgent platform info)
    (s.credentials.getD .anonymous) = c
  have hc_endpoint : c.endpoint = o.text := by rw [← hc]
  have hc_provider : c.credentials.Succeeds := by rwa [← hc]
  cases hlibrary : c.libraryHeaders stamp w.descriptor options with
  | error error =>
    left
    exact ⟨error, rfl, by rw [sign, hlibrary]⟩
  | ok headers =>
    right
    obtain ⟨fields, hfields, -⟩ := hc_provider (signing w headers)
    have hsign : c.sign stamp w options =
        .ready w (signing w headers) (c.httpRequest? w (headers.override fields)) := by
      simp only [sign, hlibrary, hfields]
    exact ⟨headers, _, rfl, hsign, sendsSigned_httpRequest? hc_endpoint hplaced _ headers⟩

/-- A request with names and texts of reserved characters, of characters beyond ASCII and of
none at all, in a JSON body to an address with slashes behind it. -/
theorem sign_carries_reserved_characters :
    let s : Settings := { endpoint := some "http://127.0.0.1:1//" }
    let d := { Descriptor.rpc "Call" "1" .post with reqBodyType := .json }
    let v : Json := .obj [("a&=b", .str "\u00e4+%\n"), ("", .str "")]
    let platform : Platform := ⟨"linux", "x86_64", "1.85.0"⟩
    ∃ c w, ofSettings platform .loadBalancer {} s = .ok c ∧ WireRequest.assemble d v = .ok w ∧
      w.body.entries = [("", ""), ("a&=b", "\u00e4+%\n")] ∧ ∀ stamp : Stamp,
        ∃ headers r, c.sign stamp w {} = .ready w (signing w headers) (some r) ∧
          r.Carries .json (signing w headers) := by
  intro s d v platform
  have hprovider : (s.credentials.getD .anonymous).Succeeds := by
    intro r
    exact ⟨{}, rfl, by decide⟩
  have hw : WireRequest.assemble d v = .ok (.place d (WireRequest.shape d
      [("a&=b", .str "\u00e4+%\n"), ("", .str "")])) := rfl
  obtain ⟨-, c, hc, hendpoint, hsign⟩ :=
    sign_carries (s := s) (o := .loopback) (n := 2) (d := d) (v := v) rfl
    hprovider hw platform .loadBalancer {}
  refine ⟨c, _, hc, hw, by decide, ?_⟩
  intro stamp
  rcases hsign stamp {} with ⟨error, herror, -⟩ | ⟨headers, request?, -, hready, hsends⟩
  · have hconnection :=
      ofSettings_of_origin (s := s) (o := .loopback) (n := 2) rfl platform .loadBalancer {}
    obtain rfl := Except.ok.inj (hconnection.symm.trans hc)
    have hagent : isHeaderValue (BalancerClient.userAgent platform .loadBalancer) = true :=
      by decide
    have haccept : isHeaderValue "application/json" = true := by decide
    have hcall : isHeaderValue "Call" = true := by decide
    have hversion : isHeaderValue "1" = true := by decide
    simp [libraryHeaders, libraryFields, userAgentOf, d, Descriptor.rpc, hagent, haccept,
      hcall, hversion, stamp.isHeaderValue_nonce, stamp.isHeaderValue_date] at herror
  · have hurl : Url.parse (Origin.loopback.text ++ "/") =
        .ok ⟨"http", some (.ipv4 2130706433), some 1, ['/'], []⟩ := by decide +kernel
    have htaken : Url.isTaken ⟨"http", some (.ipv4 2130706433), some 1, ['/'], []⟩ [] =
        true := by
      decide +kernel
    obtain ⟨r, rfl⟩ :=
      Option.isSome_iff_exists.1 (hsends.goesOut.2 ⟨_, by rw [hendpoint]; exact hurl, htaken⟩)
    exact ⟨headers, r, hready,
      hsends.carries r rfl (Descriptor.isPlainPath_rpc "Call" "1" .post)⟩

/-- Not everything that arrives has the path that was signed, and not everything that a reply
leads to has the method that was signed. -/
theorem not_forall_carries :
    (¬ ∀ (c : Connection) (o : Origin) (d : Descriptor) (v : Json) (w : WireRequest)
      (stamp : Stamp)
        (options : RequestOptions), c.endpoint = o.text → c.credentials.Succeeds →
      WireRequest.assemble d v = .ok w → ∀ signed ∈ (c.sign stamp w options).signed,
        ∀ r ∈ ((c.sign stamp w options).perform Json.reader (.serving [])).2.received,
          r.pathname = signed.pathname) ∧
      ¬ ∀ (c : Connection) (o : Origin) (d : Descriptor) (v : Json) (w : WireRequest)
        (stamp : Stamp)
        (options : RequestOptions) (script : List Delivery), c.endpoint = o.text →
        c.credentials.Succeeds → Url.IsPlainPath d.pathname →
          WireRequest.assemble d v = .ok w →
        ∀ signed ∈ (c.sign stamp w options).signed,
          ∀ r ∈ ((c.sign stamp w options).perform Json.reader (.serving script)).2.received,
            r.method = signed.method := by
  let c : Connection := ⟨"http://127.0.0.1:1", "agent", .anonymous⟩
  let stamp : Stamp := ⟨"date", "nonce", by decide, by decide⟩
  have hprovider : c.credentials.Succeeds := fun _ => ⟨{}, rfl, by decide⟩
  constructor
  · intro h
    let d : Descriptor := { Descriptor.rpc "Call" "1" .get with pathname := "/a b" }
    let w := WireRequest.place d {}
    have hsigned : (c.sign stamp w {}).signed.map SigningRequest.pathname = ["/a b"] := rfl
    have harrived : ((c.sign stamp w {}).perform Json.reader (.serving [])).2.received.map
        HttpRequest.pathname = ["/a%20b"] := by decide +kernel
    obtain ⟨signed, hmem, hpathname⟩ :=
      List.mem_map.1 (hsigned ▸ List.mem_singleton_self "/a b")
    obtain ⟨r, hr, harrives⟩ := List.mem_map.1 (harrived ▸ List.mem_singleton_self "/a%20b")
    have heq := h c .loopback d (.obj []) w stamp {} rfl hprovider rfl signed hmem r hr
    rw [hpathname, harrives] at heq
    exact absurd heq (by decide)
  · intro h
    let d : Descriptor := Descriptor.rpc "Call" "1" .post
    let w := WireRequest.place d {}
    let moved : HttpReply := { status := 303, headers := ⟨[("location", "/")]⟩ }
    have hsigned : (c.sign stamp w {}).signed.map SigningRequest.method = [.post] := rfl
    have harrived :
        ((c.sign stamp w {}).perform Json.reader (.serving [.reply moved])).2.received.map
        HttpRequest.method = [.post, .get] := by decide +kernel
    obtain ⟨signed, hmem, hmethod⟩ :=
      List.mem_map.1 (hsigned ▸ List.mem_singleton_self Method.post)
    have hget : Method.get ∈ ((c.sign stamp w {}).perform Json.reader
        (.serving [.reply moved])).2.received.map HttpRequest.method := by
      rw [harrived]
      decide
    obtain ⟨r, hr, harrives⟩ := List.mem_map.1 hget
    have heq := h c .loopback d (.obj []) w stamp {} [.reply moved] rfl hprovider
      (Descriptor.isPlainPath_rpc "Call" "1" .post) rfl signed hmem r hr
    rw [hmethod, harrives] at heq
    cases heq

end Connection

end BalancerClient
