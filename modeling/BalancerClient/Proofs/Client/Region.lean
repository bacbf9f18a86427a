import BalancerClient.Client.Connection
import BalancerClient.Proofs.Http.Authority

/-!
# Where a region leads

Without an endpoint a client sends its requests to that of its region, whose text is put
between the label of the service and the domain of the provider.  The region is not looked at;
the only check is that the whole can be read as a URL.  A region that holds none of the marks
that end the host therefore leads into the domain.  One that holds a mark leads to what it
names in front of the mark, whoever that belongs to.

## Main definitions

* `ServiceInfo.HasPlainLabel` - the label of a service is letters, digits and hyphens.
* `Settings.LeadsTo` - where a region leads.

## Main statements

* `Connection.leadsTo_ofSettings` - a client without an endpoint is led by its region.
* `Connection.isRedirected_ofSettings` - there is a region that leads to a given host.
-/

namespace BalancerClient

/-- The label of a service is letters, digits and hyphens. -/
def ServiceInfo.HasPlainLabel (info : ServiceInfo) : Prop :=
  ∀ c ∈ info.product.toList, c.isAlphanum = true ∨ c = '-'

theorem ServiceInfo.hasPlainLabel_loadBalancer : ServiceInfo.loadBalancer.HasPlainLabel := by
  intro c hc
  have hall : "nlb".toList.all (fun c => c.isAlphanum || c == '-') = true := by decide
  simpa using List.all_eq_true.1 hall c hc

namespace Settings

/-- The domain that the hosts of the regions belong to. -/
def regionalDomain : List Char := ".aliyuncs.com".toList

/-- The characters of the domain are visible, and none of them has a part in the syntax of
URLs. -/
theorem plain_regionalDomain {c : Char} (hc : c ∈ regionalDomain) :
    32 < c.toNat ∧ c.toNat < 128 ∧ Url.endsAuthority .network c = false ∧
      c ≠ '%' ∧ c ≠ '@' ∧ c ≠ ':' ∧ c ≠ ']' ∧ c ≠ '\\' := by
  have hall : regionalDomain.all (fun c => 32 < c.toNat && c.toNat < 128 &&
      !Url.endsAuthority .network c &&
      c != '%' && c != '@' && c != ':' && c != ']' && c != '\\') = true := by decide
  simpa [and_assoc] using List.all_eq_true.1 hall c hc

theorem isDomain_regionalDomain : Host.IsDomain regionalDomain where
  point := ⟨"aliyuncs.com".toList, rfl⟩
  canonical := by decide
  label := ⟨"com".toList, by decide⟩
  letter := ⟨'a', by decide⟩
  ascii := fun _ hc => (plain_regionalDomain hc).2.1
  plain := fun _ hc => (plain_regionalDomain hc).2.2.2

/-- The scheme of the regional endpoints. -/
def webScheme : List Char := ['h', 't', 't', 'p', 's']

/-- The text of a URL with that scheme whose host and path are given together. -/
def webText (cs : List Char) : String := "https://" ++ String.ofList cs

theorem toList_webText (cs : List Char) :
    (webText cs).toList = webScheme ++ ':' :: '/' :: '/' :: cs := by
  rw [webText, String.toList_append, String.toList_ofList, String.toList_ofList]
  rfl

/-- What an endpoint names in front of the domain. -/
def regionalName (info : ServiceInfo) (region : List Char) : List Char :=
  info.product.toList ++ '.' :: region

/-- Where a region leads: into the domain, or to what it names in front of its first mark. -/
structure LeadsTo (info : ServiceInfo) (region : List Char) (u : Url) : Prop where
  inDomain : (∀ c ∈ region, Url.endsAuthority .network c = false) →
    Host.IsInDomain regionalDomain u.host
  beforeMark : ∀ front mark back, region = front ++ mark :: back →
    (∀ c ∈ front, Url.endsAuthority .network c = false) →
      Url.endsAuthority .network mark = true →
    ∃ alone, Url.parse (webText (regionalName info front ++ ['/'])) = .ok alone ∧
      u.host = alone.host ∧ u.port = alone.port

theorem regionalEndpoint_eq (info : ServiceInfo) (region : String) :
    regionalEndpoint info region = webText (regionalName info region.toList ++
      regionalDomain) := by
  have hpoint : "." = String.ofList ['.'] := by decide
  have hdomain : ".aliyuncs.com" = String.ofList regionalDomain := by decide
  apply String.toList_inj.1
  simp only [regionalEndpoint, webText, regionalName, hpoint, hdomain, String.toList_append,
    String.toList_ofList, List.append_assoc, List.cons_append, List.nil_append]

end Settings

open Settings

/-- A text behind the scheme is read without its tabs and line breaks. -/
theorem Url.parse_webText {cs : List Char} (hne : cs ≠ [])
    (hlast : ∀ c ∈ cs.getLast?, 32 < c.toNat) :
    parse (webText cs) =
      readAuthority "https" .network ((cs.filter isKept).dropWhile isSlash) := by
  have hclean : clean (webScheme ++ ':' :: '/' :: '/' :: cs) =
      webScheme ++ ':' :: '/' :: '/' :: cs.filter isKept := by
    rw [clean_of_ends]
    · rfl
    · intro c hc
      obtain rfl := Option.some.inj hc
      decide
    · obtain ⟨first, more, rfl⟩ := List.exists_cons_of_ne_nil hne
      simpa [webScheme] using hlast
  have hscheme : scheme? (webScheme ++ ':' :: '/' :: '/' :: cs.filter isKept) =
      some (String.ofList (webScheme.map Char.toLower), '/' :: '/' :: cs.filter isKept) :=
    scheme?_append (by decide) (List.all_eq_true.1 (by decide)) _
  have hlower : String.ofList (webScheme.map Char.toLower) = "https" := by decide
  rw [parse, toList_webText, hclean, hscheme, hlower]
  rfl

namespace Settings

variable {info : ServiceInfo} (hinfo : info.HasPlainLabel)

include hinfo

theorem endsAuthority_label {c : Char} (hc : c ∈ info.product.toList) :
    Url.endsAuthority .network c = false := by
  have hplain := hinfo c hc
  rw [Bool.eq_false_iff]
  intro hends
  simp only [Url.endsAuthority, Bool.or_eq_true, Bool.and_eq_true, beq_iff_eq] at hends
  rcases hends with ((rfl | rfl) | rfl) | ⟨rfl, -⟩ <;> exact absurd hplain (by decide)

theorem isKept_label {c : Char} (hc : c ∈ info.product.toList) : Url.isKept c = true := by
  have hplain := hinfo c hc
  by_contra hkept
  simp only [Url.isKept, Bool.not_eq_true', Bool.not_eq_false, Bool.or_eq_true,
    beq_iff_eq] at hkept
  rcases hkept with (rfl | rfl) | rfl <;> exact absurd hplain (by decide)

theorem endsAuthority_regionalName (region : List Char)
    (h : ∀ c ∈ region, Url.endsAuthority .network c = false) :
    ∀ c ∈ regionalName info region, Url.endsAuthority .network c = false := by
  intro c hc
  rcases List.mem_append.1 hc with hc | hc
  · exact endsAuthority_label hinfo hc
  · rcases List.mem_cons.1 hc with rfl | hc
    · rfl
    · exact h c hc

/-- What is read of an endpoint: the name of the host starts with the label, whatever the
region is. -/
theorem parse_regionalName (region : List Char) {back : List Char} (hne : back ≠ [])
    (hback : ∀ c ∈ back, 32 < c.toNat) :
    Url.parse (webText (regionalName info region ++ back)) =
      Url.readAuthority "https" .network (regionalName info (region.filter Url.isKept) ++
        back) := by
  have hkept : (regionalName info region ++ back).filter Url.isKept =
      regionalName info (region.filter Url.isKept) ++ back := by
    have hlabel : info.product.toList.filter Url.isKept = info.product.toList :=
      List.filter_eq_self.2 fun c hc => isKept_label hinfo hc
    have hend : back.filter Url.isKept = back :=
      List.filter_eq_self.2 fun c hc => Url.isKept_of_lt (hback c hc)
    simp only [regionalName, List.filter_append, List.filter_cons, hlabel, hend]
    rfl
  have hfront : (regionalName info (region.filter Url.isKept) ++ back).dropWhile Url.isSlash =
      regionalName info (region.filter Url.isKept) ++ back := by
    apply Url.dropWhile_isSlash
    intro c hc
    cases hlabel : info.product.toList with
    | nil =>
      rw [regionalName, hlabel] at hc
      obtain rfl := Option.some.inj hc
      rfl
    | cons first label =>
      rw [regionalName, hlabel] at hc
      obtain rfl := Option.some.inj hc
      exact endsAuthority_label hinfo (hlabel ▸ List.mem_cons_self)
  rw [Url.parse_webText, hkept, hfront]
  · simp [hne]
  · intro c hc
    rw [List.getLast?_append, List.getLast?_eq_some_getLast hne, Option.some_or] at hc
    obtain rfl := Option.some.inj hc
    exact hback _ (List.getLast_mem hne)

/-- The URL of an endpoint leads where its region leads. -/
theorem leadsTo_of_parse {region : String} {u : Url}
    (hu : Url.parse (regionalEndpoint info region) = .ok u) :
    LeadsTo info region.toList u := by
  rw [regionalEndpoint_eq, parse_regionalName hinfo region.toList (by decide)
    fun c hc => (plain_regionalDomain hc).1] at hu
  constructor
  · intro hregion
    apply Url.isInDomain_readAuthority isDomain_regionalDomain "https" _ hu
    intro c hc
    rcases List.mem_append.1 hc with hc | hc
    · exact endsAuthority_regionalName hinfo _ (fun c hc =>
        hregion c (List.mem_filter.1 hc).1) c hc
    · exact (plain_regionalDomain hc).2.2.1
  · intro front mark back hsplit hfront hmark
    have hkept := Url.isKept_of_endsAuthority hmark
    have hname := endsAuthority_regionalName hinfo (front.filter Url.isKept)
      fun c hc => hfront c (List.mem_filter.1 hc).1
    have htext : regionalName info (region.toList.filter Url.isKept) ++ regionalDomain =
        regionalName info (front.filter Url.isKept) ++ mark ::
          (back.filter Url.isKept ++ regionalDomain) := by
      simp [hsplit, regionalName, hkept]
    rw [htext, Url.readAuthority_eq_map "https" ['/'] hname (by simp [hmark]) (by simp)
      (by simp [Url.endsAuthority]) (by simp),
        ← parse_regionalName hinfo front (by simp) (by simp)] at hu
    cases halone : Url.parse (webText (regionalName info front ++ ['/'])) with
    | error fault =>
      rw [halone] at hu
      cases hu
    | ok alone =>
      rw [halone] at hu
      obtain rfl := Except.ok.inj hu
      exact ⟨alone, rfl, rfl, rfl⟩

/-- A region leads to any host: it names a user in front of it and puts a slash behind it. -/
theorem exists_parse_of_authority {authority : List Char} {alone : Url}
    (hplain : ∀ c ∈ authority, 32 < c.toNat ∧ c ≠ '@' ∧ Url.endsAuthority .network c = false)
    (halone : Url.parse (webText (authority ++ ['/'])) = .ok alone) :
    ∃ u, Url.parse (regionalEndpoint info (String.ofList ('@' :: authority ++ ['/']))) =
      .ok u ∧ u.host = alone.host ∧ u.port = alone.port := by
  have hends : ∀ c ∈ authority, Url.endsAuthority .network c = false := fun c hc =>
      (hplain c hc).2.2
  have hkept : authority.filter Url.isKept = authority :=
    List.filter_eq_self.2 fun c hc => Url.isKept_of_lt (hplain c hc).1
  have hread : Url.parse (webText (authority ++ ['/'])) =
      Url.readAuthority "https" .network (authority ++ ['/']) := by
    have hslash : ['/'].filter Url.isKept = ['/'] := by decide
    rw [Url.parse_webText (by simp) (by simp), List.filter_append, hkept, hslash,
      Url.dropWhile_isSlash]
    intro c hc
    cases authority with
    | nil =>
      rw [Url.parse_webText (by simp) (by simp)] at halone
      cases halone
    | cons first more =>
      obtain rfl := Option.some.inj hc
      exact hends first List.mem_cons_self
  -- the label and the point behind it become the user
  have huser : ∀ c ∈ info.product.toList ++ ['.'], Url.endsAuthority .network c = false :=
    endsAuthority_regionalName hinfo [] (by simp)
  have htext : regionalName info (('@' :: authority ++ ['/']).filter Url.isKept) ++
      regionalDomain =
      info.product.toList ++ ['.'] ++ '@' :: authority ++ '/' :: regionalDomain := by
    have hmarks : Url.isKept '@' = true ∧ Url.isKept '/' = true := by decide
    simp [regionalName, hkept, hmarks]
  refine ⟨{ alone with rest := '/' :: regionalDomain, user := info.product.toList ++ ['.'] },
    ?_, rfl, rfl⟩
  rw [regionalEndpoint_eq, String.toList_ofList,
    parse_regionalName hinfo _ (by decide) (fun c hc => (plain_regionalDomain hc).1), htext,
    Url.readAuthority_user "https" (by simp) huser (fun c hc => (hplain c hc).2)
      (by simp [Url.endsAuthority]),
    Url.readAuthority_eq_map "https" ['/'] hends (by simp [Url.endsAuthority]) (by simp)
      (by simp [Url.endsAuthority]) (by simp), ← hread, halone]
  rfl

end Settings

namespace Connection

variable (platform : Platform) (info : ServiceInfo) (env : Environment) {s : Settings}

/-- Without an endpoint the URL of the region is all that can be wrong. -/
theorem ofSettings_of_region (hs : s.endpoint = none) {endpoint : String} {u : Url}
    (hendpoint : regionalEndpoint info (s.effectiveRegion env info) = endpoint)
    (hu : Url.parse endpoint = .ok u) :
    ofSettings platform info env s =
      .ok ⟨endpoint, BalancerClient.userAgent platform info,
        s.credentials.getD .anonymous⟩ := by
  have hresolve : s.resolveEndpoint env info = endpoint :=
    by rw [resolveEndpoint, hs, ← hendpoint]
  simp only [ofSettings, hresolve, hu]

/-- A client without an endpoint is led by its region, wherever the region comes from. -/
theorem leadsTo_ofSettings (hinfo : info.HasPlainLabel) (hs : s.endpoint = none)
    {c : Connection} (hc : ofSettings platform info env s = .ok c) :
    ∃ u, Url.parse c.endpoint = .ok u ∧
      LeadsTo info (s.effectiveRegion env info).toList u := by
  cases hu : Url.parse (regionalEndpoint info (s.effectiveRegion env info)) with
  | error fault =>
    have hresolve : s.resolveEndpoint env info =
        regionalEndpoint info (s.effectiveRegion env info) := by
      rw [resolveEndpoint, hs]
    simp only [ofSettings, hresolve, hu] at hc
    cases hc
  | ok u =>
    rw [ofSettings_of_region platform info env hs rfl hu] at hc
    obtain rfl := Except.ok.inj hc
    exact ⟨u, hu, leadsTo_of_parse hinfo hu⟩

/-- The region in the environment leads into the domain. -/
theorem leadsTo_ofSettings_shanghai :
    ∃ c u,
      ofSettings ⟨"linux", "x86_64", "1.85.0"⟩ .loadBalancer { region := some "cn-shanghai" }
        {} = .ok c ∧
      Url.parse c.endpoint = .ok u ∧ Host.IsInDomain regionalDomain u.host := by
  have hread : Url.parse "https://nlb.cn-shanghai.aliyuncs.com" =
      .ok ⟨"https", some (.domain "nlb.cn-shanghai.aliyuncs.com".toList), none, [], []⟩ :=
        by decide +kernel
  have hc := ofSettings_of_region ⟨"linux", "x86_64", "1.85.0"⟩ .loadBalancer
    { region := some "cn-shanghai" } (s := {}) rfl (by decide +kernel) hread
  obtain ⟨u, hu, hlead⟩ :=
    leadsTo_ofSettings _ _ _ ServiceInfo.hasPlainLabel_loadBalancer rfl hc
  have hplain : "cn-shanghai".toList.all (fun c => !Url.endsAuthority .network c) = true :=
    by decide
  exact ⟨_, u, hc, hu, hlead.inDomain fun c hc =>
    by simpa using List.all_eq_true.1 hplain c hc⟩

/-- A region with an at sign and a slash leads out of the domain. -/
theorem not_forall_isInDomain :
    ¬ ∀ (platform : Platform) (info : ServiceInfo) (env : Environment) (s : Settings)
      (c : Connection),
      info.HasPlainLabel → s.endpoint = none → ofSettings platform info env s = .ok c →
      ∃ u, Url.parse c.endpoint = .ok u ∧ Host.IsInDomain regionalDomain u.host := by
  intro h
  have hread : Url.parse "https://nlb.@example.org/.aliyuncs.com" =
      .ok ⟨"https", some (.domain "example.org".toList), none, "/.aliyuncs.com".toList,
        "nlb.".toList⟩ := by decide +kernel
  have hc := ofSettings_of_region ⟨"linux", "x86_64", "1.85.0"⟩ .loadBalancer
    {} (s := { region := some "@example.org/" }) rfl (by decide +kernel) hread
  obtain ⟨u, hu, name, hname, hsuffix⟩ :=
    h _ _ _ _ _ ServiceInfo.hasPlainLabel_loadBalancer rfl hc
  obtain rfl := Except.ok.inj (hread.symm.trans hu)
  obtain rfl := Host.domain.inj (Option.some.inj hname)
  exact absurd (List.isSuffixOf_iff_suffix.2 hsuffix) (by decide)

/-- Whatever host a client could be meant for, there is a region that leads there. -/
theorem isRedirected_ofSettings (hinfo : info.HasPlainLabel) (hs : s.endpoint = none)
    {authority : List Char} {alone : Url}
    (hplain : ∀ c ∈ authority, 32 < c.toNat ∧ c ≠ '@' ∧ Url.endsAuthority .network c = false)
    (halone : Url.parse (webText (authority ++ ['/'])) = .ok alone) :
    ∃ region c u, ofSettings platform info env (s.apply (.region region)) = .ok c ∧
      Url.parse c.endpoint = .ok u ∧ u.host = alone.host ∧ u.port = alone.port := by
  obtain ⟨u, hu, hplace⟩ := exists_parse_of_authority hinfo hplain halone
  have hregion :
      (s.apply (.region (String.ofList ('@' :: authority ++ ['/'])))).effectiveRegion env
      info = String.ofList ('@' :: authority ++ ['/']) := rfl
  have hendpoint : (s.apply (.region (String.ofList ('@' :: authority ++ ['/'])))).endpoint =
      none := hs
  exact ⟨_, _, u, ofSettings_of_region platform info env hendpoint (congrArg _ hregion) hu,
    hu, hplace⟩

end Connection

end BalancerClient
