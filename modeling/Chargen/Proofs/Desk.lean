import Chargen.Desk.Run
import Chargen.Proofs.Loading
import Chargen.Proofs.Rulebook.Lookup
import Mathlib.Data.List.DropRight

/-!
# Runs of requests to a desk

Clients do not notice the cache of a desk: each request is answered as if every text were read anew,
whatever was asked, loaded or forgotten before. What the desk keeps follows from the requests alone.

* `Desk.answer_eq`: one request, answered from a faithful cache.
* `Desk.run_eq`: a run of requests.
* `Desk.cache_after`: the cache holds what was looked up since formulas were last forgotten.
* `Desk.installed_after`: the rulebook in use is the last one that was loaded to be put into use.
* `Desk.run_transparent`: **caching and installing rulebooks are transparent**.
-/

namespace Chargen

open Points (Cache Formula)
open Points.Cache (Reads reads_ask)

namespace Request

/-- Whether a request forgets all formulas. -/
def isForget : Request → Bool
  | .forget => true
  | _ => false

/-- The texts of formulas that a request looks up, in order. -/
def texts : Request → List String
  | .formula text | .value text _ _ | .groups text | .best text _ | .fill text _ _ => [text]
  | .load source | .installFrom source => source.formulasRead
  | .forget | .install _ => []

/-- The rulebook that a request puts into use: one that was loaded, or is loaded without a fault. -/
def installs? : Request → Option Rulebook
  | .install r => some r.rulebook
  | .installFrom source => source.rulebook.toOption
  | _ => none

/-- The answer to a request if every text is read anew. -/
def plainAnswer : Request → Answer
  | .formula text => .formula (Formula.parse text)
  | .value text b picks => .value ((Formula.parse text).value b picks)
  | .groups text => .groups (Formula.parse text).groups
  | .best text b => .best ((Formula.parse text).best b)
  | .fill text b picks => .filled ((Formula.parse text).fill b picks)
  | .forget | .install _ => .done
  | .load source => .loaded source.rulebook
  | .installFrom source => .installed (source.rulebook.map fun _ => ())

end Request

/-- The texts that a run of requests has looked up since formulas were last forgotten. -/
def lookedUp (requests : List Request) : List String :=
  (requests.rtakeWhile fun request => !request.isForget).flatMap Request.texts

namespace Desk

variable {desk : Desk}

/-! ### One request -/

/-- A desk after a request. -/
def after (desk : Desk) (request : Request) : Desk where
  cache := if request.isForget then SortedMap.empty else desk.cache.readAll request.texts
  installed := request.installs?.or desk.installed

theorem throughCache_eq {α : Type} {x : StateM Cache α} {texts : List String} {result : α}
    (hx : Reads x texts result) (h : desk.cache.Faithful) :
    throughCache x desk = (result, { desk with cache := desk.cache.readAll texts }) := by
  unfold throughCache
  rw [hx desk.cache h]

/-- Loading from a source gives its rulebook. -/
theorem loadFrom_eq (h : desk.cache.Faithful) (source : RulebookSource) :
    loadFrom source desk =
      (source.rulebook, { desk with cache := desk.cache.readAll source.formulasRead }) := by
  unfold loadFrom RulebookSource.rulebook RulebookSource.formulasRead
  cases source.document? with
  | none => rfl
  | some d => exact throughCache_eq (Rulebook.reads_load d) h

theorem answered_eq {α : Type} {x : StateM Desk α} {result : α} {later : Desk}
    (hx : x desk = (result, later)) (wrap : α → Answer) :
    (do return wrap (← x) : StateM Desk Answer) desk = (wrap result, later) := by
  have hstep : (do return wrap (← x) : StateM Desk Answer) desk = (wrap (x desk).1, (x desk).2) :=
    rfl
  rw [hstep, hx]

/-- **A desk with a faithful cache answers as if every text were read anew.** -/
theorem answer_eq (h : desk.cache.Faithful) (request : Request) :
    answer request desk = (request.plainAnswer, desk.after request) := by
  cases request with
  | formula text => exact answered_eq (throughCache_eq (Reads.read text) h) .formula
  | value text b picks => exact answered_eq (throughCache_eq (reads_ask text _) h) .value
  | groups text => exact answered_eq (throughCache_eq (reads_ask text _) h) .groups
  | best text b => exact answered_eq (throughCache_eq (reads_ask text _) h) .best
  | fill text b picks => exact answered_eq (throughCache_eq (reads_ask text _) h) .filled
  | forget => rfl
  | load source => exact answered_eq (loadFrom_eq h source) .loaded
  | install r => rfl
  | installFrom source =>
    have hinstall : (do installLoaded (← loadFrom source) : StateM Desk (Except Fault Unit)) desk =
        (source.rulebook.map fun _ => (), desk.after (.installFrom source)) := by
      have hstep : (do installLoaded (← loadFrom source) : StateM Desk (Except Fault Unit)) desk =
          installLoaded (loadFrom source desk).1 (loadFrom source desk).2 := rfl
      have hinstalls : (Request.installFrom source).installs? = source.rulebook.toOption := rfl
      unfold after
      rw [hstep, loadFrom_eq h, hinstalls]
      -- the rulebook takes its place only if there is one
      cases source.rulebook <;> rfl
    exact answered_eq hinstall .installed

theorem faithful_after (h : desk.cache.Faithful) (request : Request) :
    (desk.after request).cache.Faithful := by
  unfold after
  by_cases hforget : request.isForget = true
  · rw [if_pos hforget]
    exact Points.Cache.faithful_empty
  · rw [if_neg hforget]
    exact Points.Cache.faithful_readAll h request.texts

/-! ### A run of requests -/

/-- **A run of requests is answered as if every text were read anew.** -/
theorem run_eq (h : desk.cache.Faithful) (requests : List Request) :
    run requests desk = (requests.map Request.plainAnswer, requests.foldl after desk) := by
  induction requests generalizing desk with
  | nil => rfl
  | cons request requests ih =>
    have hstep : run (request :: requests) desk =
        ((answer request desk).1 :: (run requests (answer request desk).2).1,
          (run requests (answer request desk).2).2) := rfl
    rw [hstep, answer_eq h, ih (faithful_after h request)]
    rfl

theorem lookedUp_concat (requests : List Request) (request : Request) :
    lookedUp (requests ++ [request]) =
      if request.isForget then [] else lookedUp requests ++ request.texts := by
  unfold lookedUp
  rw [List.rtakeWhile_concat]
  cases request.isForget <;> simp

/-- **The cache holds what was looked up since formulas were last forgotten.** -/
theorem cache_after (requests : List Request) :
    (requests.foldl after bare).cache =
      Points.Cache.readAll SortedMap.empty (lookedUp requests) := by
  induction requests using List.reverseRecOn with
  | nil => rfl
  | append_singleton requests request ih =>
    rw [List.foldl_concat, lookedUp_concat, after, ih]
    by_cases hforget : request.isForget = true
    · rw [if_pos hforget, if_pos hforget]
      rfl
    · rw [if_neg hforget, if_neg hforget, Points.Cache.readAll_append]

/-- **The rulebook in use is the last one that was put into use**, or the one from before. -/
theorem installed_after (requests : List Request) (desk : Desk) :
    (requests.foldl after desk).installed =
      ((requests.filterMap Request.installs?).getLast?).or desk.installed := by
  induction requests using List.reverseRecOn with
  | nil => rfl
  | append_singleton requests request ih =>
    rw [List.foldl_concat, after, ih, List.filterMap_append, List.getLast?_append, Option.or_assoc]
    cases hinstalls : request.installs? <;> simp [hinstalls]

/-- A rulebook that a request puts into use was loaded from some source. -/
theorem exists_source_of_installs? {request : Request} {r : Rulebook}
    (h : request.installs? = some r) : ∃ source : RulebookSource, source.rulebook = .ok r := by
  cases request with
  | install loaded =>
    obtain rfl : loaded.rulebook = r := Option.some.inj h
    exact loaded.loaded
  | installFrom source =>
    have htaken : source.rulebook.toOption = some r := h
    cases hr : source.rulebook with
    | error cause =>
      rw [hr] at htaken
      cases htaken
    | ok r' =>
      rw [hr] at htaken
      cases htaken
      exact ⟨source, hr⟩
  | _ => cases h

/-! ### Transparency -/

/-- The answers to a run of requests, and what the desk keeps in the end, follow from the
requests. -/
structure Transparent (requests : List Request) (answers : List Answer) (desk : Desk) : Prop where
  /-- each request is answered as if every text were read anew -/
  answered : answers = requests.map Request.plainAnswer
  /-- the cache holds the formula of each text looked up since formulas were last forgotten -/
  holds : ∀ text f,
    desk.cache.get? text = some f ↔ text ∈ lookedUp requests ∧ f = Formula.parse text
  /-- the size of the cache is the number of these texts -/
  size_eq : desk.cache.size = (lookedUp requests).dedup.length
  /-- the rulebook in use is the last one that was put into use -/
  installed_eq : desk.installed = (requests.filterMap Request.installs?).getLast?
  /-- the rulebook in use was loaded without a fault -/
  loaded : ∀ r, desk.installed = some r → ∃ source : RulebookSource, source.rulebook = .ok r

theorem run_bare (requests : List Request) :
    run requests bare = (requests.map Request.plainAnswer, requests.foldl after bare) :=
  run_eq Points.Cache.faithful_empty requests

theorem transparent_run (requests : List Request) :
    Transparent requests (run requests bare).1 (run requests bare).2 := by
  rw [run_bare]
  have hinstalled : (requests.foldl after bare).installed =
      (requests.filterMap Request.installs?).getLast? := by
    rw [installed_after]
    exact Option.or_none
  refine ⟨rfl, fun text f => ?_, ?_, hinstalled, fun r hr => ?_⟩
  · rw [cache_after, Points.Cache.get?_readAll]
    by_cases hmem : text ∈ lookedUp requests
    · simp [hmem, eq_comm]
    · simp [hmem]
  · rw [cache_after, Points.Cache.size_readAll]
  · rw [hinstalled] at hr
    obtain ⟨request, -, hrequest⟩ := List.mem_filterMap.mp (List.mem_of_getLast? hr)
    exact exists_source_of_installs? hrequest

/-- A request that puts no rulebook into use leaves the one in use. -/
theorem installed_run_concat {requests : List Request} {request : Request}
    (h : request.installs? = none) :
    (run (requests ++ [request]) bare).2.installed = (run requests bare).2.installed := by
  rw [run_bare, run_bare, List.foldl_concat, after, h, Option.none_or]

/-- Once there is a rulebook in use, there is always one. -/
theorem isSome_installed_run_append {requests : List Request} (more : List Request)
    (h : (run requests bare).2.installed.isSome) :
    (run (requests ++ more) bare).2.installed.isSome := by
  rw [run_bare] at h ⊢
  rw [List.foldl_append, installed_after, Option.isSome_or, h, Bool.or_true]

/-- **Caching and installing rulebooks are transparent.** Whatever is asked of a bare desk, each
request is answered as if every text were read anew, the cache holds what was looked up since
formulas were last forgotten, and the rulebook in use is the last one that was loaded to be put into
use. A load looks up the formulas of the occupations that it comes to, in their order; one that
fails leaves the rulebook in use as it is; and there is always one in use from the first one on. -/
theorem run_transparent (requests : List Request) :
    Transparent requests (run requests bare).1 (run requests bare).2 ∧
      (∀ (d : RulebookDocument) (i : Nat) (text : String),
        (Rulebook.formulasRead d)[i]? = some text ↔
          ∃ o, Rulebook.ComesTo d i o ∧ o.pointsFormula = text) ∧
      (∀ (source : RulebookSource) (cause : Fault), source.rulebook = .error cause →
        (run (requests ++ [.installFrom source]) bare).2.installed =
          (run requests bare).2.installed) ∧
      ∀ more : List Request, (run requests bare).2.installed.isSome →
        (run (requests ++ more) bare).2.installed.isSome := by
  refine ⟨transparent_run requests, fun _ _ _ => Rulebook.getElem?_formulasRead, ?_,
    isSome_installed_run_append⟩
  intro source cause hfailed
  have hnone : (Request.installFrom source).installs? = none := by
    unfold Request.installs?
    simp only [hfailed, Except.toOption]
  exact installed_run_concat hnone

/-- The standard rulebook is loaded and put into use, and stays in use when another source does not
hold a rulebook. -/
theorem run_transparent_standard : ∃ r, RulebookSource.standard.rulebook = .ok r ∧
    (run [.installFrom .standard] bare).2.installed = some r ∧
    (run [.installFrom .standard, .installFrom (.text "[]")] bare).2.installed = some r := by
  obtain ⟨r, hr⟩ : ∃ r, Rulebook.ofDocument Rulebook.standardDocument = .ok r :=
    Rulebook.exists_of_isOk (by decide +kernel)
  have hsource : RulebookSource.standard.rulebook = .ok r := hr
  have hempty : (RulebookSource.text "[]").document?.isNone = true := by decide +kernel
  have hfailed : (RulebookSource.text "[]").rulebook = .error .malformedDocument := by
    rw [RulebookSource.rulebook, Option.isNone_iff_eq_none.mp hempty]
  obtain ⟨htransparent, -, hkeeps, -⟩ := run_transparent [.installFrom .standard]
  have hinstalled : (run [.installFrom .standard] bare).2.installed = some r := by
    have hinstalls : (Request.installFrom .standard).installs? = some r := by
      rw [Request.installs?, hsource, Except.toOption]
    rw [htransparent.installed_eq, List.filterMap_cons_some hinstalls]
    rfl
  have hkept := hkeeps _ _ hfailed
  rw [List.singleton_append] at hkept
  exact ⟨r, hsource, hinstalled, hkept.trans hinstalled⟩

example : (run [.formula "EDUx4", .installFrom (.text "[]"), .forget,
    .value "INTx2" (Profile.uniform 50) SortedMap.empty, .formula "EDUx4", .groups "INTx2"]
    bare).2.cache.keys = ["EDUx4", "INTx2"] := by decide +kernel

end Desk

end Chargen
