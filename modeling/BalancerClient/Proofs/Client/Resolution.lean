import BalancerClient.Client.Settings
import BalancerClient.Session.Trail
import Mathlib.Data.List.DropRight

/-!
# Where the requests of a client go

Of the steps that set up a client the last endpoint counts and, without one, the last region.
Credentials and tracing have no part in it, and neither has the order in which endpoints and
regions are mixed.  The endpoint that follows has no slash at its end, so it can be used as it
is in front of a path, and as an endpoint that is set it stands for itself.

## Main definitions

* `Settings.ofSteps` - the settings that steps lead to.
* `Settings.Step.endpoint?`, `Settings.Step.region?` - what a step sets.
* `Settings.IsWithoutSlashes` - a text is another one without the slashes at its end.
* `Settings.Chooses`, `Settings.Leads` - the region and the endpoint that steps lead to.

## Main statements

* `Settings.isWithoutSlashes_trimSlashes` - only slashes are cut off, and all of them.
* `Settings.leads_ofSteps` - the endpoint of a client is the one that its steps lead to.
* `Settings.resolution_ofSteps` - the same with what follows from it, and when a client is
  traced.
-/

namespace BalancerClient.Settings

/-! ## Steps -/

/-- The endpoint that a step sets. -/
def Step.endpoint? : Step → Option String
  | .endpoint url => some url
  | _ => none

/-- The region that a step sets. -/
def Step.region? : Step → Option String
  | .region name => some name
  | _ => none

/-- Whether a step enables tracing. -/
def Step.isTracing : Step → Bool
  | .tracing => true
  | _ => false

/-- The settings that steps lead to. -/
def ofSteps (steps : List Step) : Settings := steps.foldl apply {}

variable (steps : List Step)

/-- The endpoint that was set last. -/
theorem endpoint_ofSteps :
    (ofSteps steps).endpoint = (steps.filterMap Step.endpoint?).getLast? := by
  have hstep : ∀ s step, (apply s step).endpoint = (Step.endpoint? step).or s.endpoint := by
    intro s step
    cases step <;> rfl
  rw [ofSteps, view_foldl_or hstep, Option.or_none]

/-- The region that was set last. -/
theorem region_ofSteps :
    (ofSteps steps).region = (steps.filterMap Step.region?).getLast? := by
  have hstep : ∀ s step, (apply s step).region = (Step.region? step).or s.region := by
    intro s step
    cases step <;> rfl
  rw [ofSteps, view_foldl_or hstep, Option.or_none]

/-- A client is traced if some step has asked for it, whatever came behind. -/
theorem tracing_ofSteps : (ofSteps steps).tracing = steps.any Step.isTracing := by
  have hfold : ∀ s : Settings, (steps.foldl apply s).tracing =
      (s.tracing || steps.any Step.isTracing) := by
    induction steps with
    | nil => simp
    | cons step rest ih =>
      intro s
      rw [List.foldl_cons, ih, List.any_cons]
      cases step <;> simp [apply, Step.isTracing]
  exact hfold {}

/-! ## Slashes at the end -/

/-- A text is another one without the slashes at its end. -/
structure IsWithoutSlashes (url endpoint : String) : Prop where
  cut : ∃ n, url.toList = endpoint.toList ++ List.replicate n '/'
  last : endpoint.toList.getLast? ≠ some '/'

theorem toList_trimSlashes (url : String) :
    (trimSlashes url).toList = url.toList.rdropWhile (· == '/') := by
  rw [trimSlashes, String.toList_ofList, List.rdropWhile]

/-- What is left has no slash at its end. -/
theorem getLast?_trimSlashes (url : String) :
    (trimSlashes url).toList.getLast? ≠ some '/' := by
  intro hlast
  rw [toList_trimSlashes] at hlast
  obtain ⟨hne, hslash⟩ := List.mem_getLast?_eq_getLast (Option.mem_def.2 hlast)
  exact List.rdropWhile_last_not _ _ hne (by rw [← hslash]; rfl)

/-- Only slashes are cut off, and all of them. -/
theorem isWithoutSlashes_trimSlashes (url : String) :
    IsWithoutSlashes url (trimSlashes url) where
  cut := by
    have hslashes : url.toList.rtakeWhile (· == '/') =
        List.replicate (url.toList.rtakeWhile (· == '/')).length '/' := by
      refine List.eq_replicate_iff.2 ⟨rfl, ?_⟩
      intro c hc
      have hslash : (c == '/') = true := List.mem_rtakeWhile_imp (p := (· == '/')) hc
      exact eq_of_beq hslash
    refine ⟨(url.toList.rtakeWhile (· == '/')).length, ?_⟩
    rw [← hslashes, toList_trimSlashes, List.rdropWhile_append_rtakeWhile]
  last := getLast?_trimSlashes url

/-- A text with no slash at its end is left as it is. -/
theorem trimSlashes_of_getLast?_ne {url : String} (h : url.toList.getLast? ≠ some '/') :
    trimSlashes url = url := by
  have hlast : ∀ hne : url.toList ≠ [], ¬ (url.toList.getLast hne == '/') = true := by
    intro hne hslash
    rw [List.getLast?_eq_some_getLast hne, eq_of_beq hslash] at h
    exact h rfl
  apply String.toList_inj.1
  rw [toList_trimSlashes, List.rdropWhile_eq_self_iff.2 hlast]

/-! ## The endpoint -/

section Endpoint

variable (env : Environment) (info : ServiceInfo)

/-- The region that steps lead to: the one that was set last; if none was set, that of the
environment unless it is empty; else the default. -/
inductive Chooses : String → Prop where
  | configured {region : String} (hsteps : (steps.filterMap Step.region?).getLast? =
      some region) :
    Chooses region
  | surrounding {region : String} (hsteps : (steps.filterMap Step.region?).getLast? = none)
    (henv : env.region = some region) (hne : region ≠ "") : Chooses region
  | usual (hsteps : (steps.filterMap Step.region?).getLast? = none)
    (henv : ∀ region, env.region = some region → region = "") : Chooses info.defaultRegion

/-- The endpoint that steps lead to: the one that was set last, without the slashes at its
end; if none was set, that of the region. -/
inductive Leads : String → Prop where
  | explicit {url endpoint : String}
      (hsteps : (steps.filterMap Step.endpoint?).getLast? = some url)
    (hcut : IsWithoutSlashes url endpoint) : Leads endpoint
  | regional {region : String} (hsteps : (steps.filterMap Step.endpoint?).getLast? = none)
    (hregion : Chooses steps env info region) :
    Leads ("https://" ++ info.product ++ "." ++ region ++ ".aliyuncs.com")

theorem chooses_effectiveRegion :
    Chooses steps env info ((ofSteps steps).effectiveRegion env info) := by
  rw [effectiveRegion, region_ofSteps]
  cases hsteps : (steps.filterMap Step.region?).getLast? with
  | some region => exact .configured hsteps
  | none =>
    cases henv : env.region with
    | none => exact .usual hsteps (by simp [henv])
    | some region =>
      by_cases hne : region = ""
      · subst hne
        exact .usual hsteps (by simp [henv])
      · have hfilter : (some region).filter (fun r => decide (r ≠ "")) = some region := by
          simp [Option.filter, hne]
        rw [Option.none_or, hfilter]
        exact .surrounding hsteps henv hne

/-- The endpoint of a client is the one that its steps lead to. -/
theorem leads_ofSteps : Leads steps env info ((ofSteps steps).resolveEndpoint env info) := by
  rw [resolveEndpoint, endpoint_ofSteps]
  cases hsteps : (steps.filterMap Step.endpoint?).getLast? with
  | some url => exact .explicit hsteps (isWithoutSlashes_trimSlashes url)
  | none => exact .regional hsteps (chooses_effectiveRegion steps env info)

/-- The endpoint of a client has no slash at its end. -/
theorem getLast?_resolveEndpoint (s : Settings) :
    (s.resolveEndpoint env info).toList.getLast? ≠ some '/' := by
  rw [resolveEndpoint]
  cases s.endpoint with
  | some url => exact getLast?_trimSlashes url
  | none =>
    have hlast : (".aliyuncs.com".toList).getLast? = some 'm' := by decide
    simp only [regionalEndpoint, String.toList_append, List.getLast?_append, hlast,
      Option.some_or]
    decide

/-- The endpoint that steps lead to, and what it depends on: it has no slash at its end; set
as an endpoint it stands for itself, in any environment; and steps that set the same endpoints
and regions lead to the same, whatever else they set and however they are mixed.  A client is
traced if a step or the environment has asked for it. -/
theorem resolution_ofSteps :
    Leads steps env info ((ofSteps steps).resolveEndpoint env info) ∧
      ((ofSteps steps).resolveEndpoint env info).toList.getLast? ≠ some '/' ∧
      (∀ (s : Settings) (env' : Environment) (info' : ServiceInfo),
        s.endpoint = some ((ofSteps steps).resolveEndpoint env info) →
          s.resolveEndpoint env' info' = (ofSteps steps).resolveEndpoint env info) ∧
      (∀ steps' : List Step, steps'.filterMap Step.endpoint? =
        steps.filterMap Step.endpoint? →
        steps'.filterMap Step.region? = steps.filterMap Step.region? →
          (ofSteps steps').resolveEndpoint env info =
            (ofSteps steps).resolveEndpoint env info) ∧
      ((ofSteps steps).isTraced env = true ↔ Step.tracing ∈ steps ∨ env.logging =
        some "true") := by
  have hlast := getLast?_resolveEndpoint env info (ofSteps steps)
  refine ⟨leads_ofSteps steps env info, hlast, ?_, ?_, ?_⟩
  · intro s env' info' hs
    rw [resolveEndpoint, hs]
    exact trimSlashes_of_getLast?_ne hlast
  · intro steps' hendpoint hregion
    simp only [resolveEndpoint, effectiveRegion, endpoint_ofSteps, region_ofSteps,
      hendpoint, hregion]
  · rw [isTraced, tracing_ofSteps, Bool.or_eq_true, List.any_eq_true, beq_iff_eq]
    refine or_congr_left ⟨?_, fun hmem => ⟨_, hmem, rfl⟩⟩
    intro hstep
    obtain ⟨step, hmem, htracing⟩ := hstep
    cases step with
    | tracing => exact hmem
    | _ => cases htracing

end Endpoint

end BalancerClient.Settings
