import SketchRepair.Proofs.Document.InPlace
import SketchRepair.Proofs.Repair.Edit
import SketchRepair.Repair.Pass.ScriptTag

/-!
# SketchRepair — where script tags are replaced

A script that was not loaded is known by its place in the page, but its tag is replaced
where the text of the tag stands first. That is another place if the text ends a script
further in front, or if it has been put in there as the replacement of another tag. Then
the tag that was put in gives way, and the one that was not loaded stays.

* `replaceScriptTag_cases` — one script;
* `replaceScriptTags_run` — all scripts, one after the other;
* `mem_failedScripts`, `nodup_failedScripts` — which scripts these are;
* `scriptTag_replaces_first` — **which tags give way, and when in their own place**.
-/

namespace SketchRepair

namespace Pass

open Document (Element Exchangeable IsWhole StandsFirst elements inPlace inTurn sourcedScripts)
open Prompt (ScriptTagContext)

-- ---------------------------------------------------------------------------
-- What is suggested
-- ---------------------------------------------------------------------------

/-- The tag that is suggested for a script with an error, by the reply number `n`. -/
def suggested? (team : Collaborators) (n : Nat) (failed : Element × Text) : Option Text :=
  let context : ScriptTagContext := ⟨failed.1.text, failed.2⟩
  match team.oracle with
  | none => none
  | some oracle =>
    match oracle n context.request with
    | .answer answer => context.readAnswer answer
    | _ => none

/-- The tags that are suggested for scripts with errors, when the replies begin with the
number `n`. -/
def suggestions (team : Collaborators) : Nat → List (Element × Text) → List (Element × Text)
  | _, [] => []
  | n, x :: rest =>
    match suggested? team n x with
    | none => suggestions team (n + 1) rest
    | some new => (x.1, new) :: suggestions team (n + 1) rest

/-- The suggestions that are used, one after the other: those whose old text still stands
somewhere in the page. -/
inductive Used : Text → List (Element × Text) → List (Element × Text) → Prop where
  | done {page : Text} : Used page [] []
  | used {page : Text} {u : Element × Text} {us fixes : List (Element × Text)}
      (hHas : Text.has u.1.text page = true)
      (hRest : Used (Text.replaceFirst u.1.text u.2 page) us fixes) :
      Used page (u :: us) (u :: fixes)
  | gone {page : Text} {u : Element × Text} {us fixes : List (Element × Text)}
      (hGone : Text.has u.1.text page = false) (hRest : Used page us fixes) :
      Used page (u :: us) fixes

variable {source : Element → Option Text} {team : Collaborators} {page new error : Text}
  {e : Element} {s : Progress} {n : Nat} {u : Element × Text} {us fixes failed : List (Element × Text)}

theorem suggestions_of_none (hNone : team.oracle = none) : suggestions team n failed = [] := by
  induction failed generalizing n with
  | nil => rfl
  | cons x rest ih =>
    rw [suggestions, suggested?, hNone]
    exact ih

theorem Used.sublist (h : Used page us fixes) : fixes.Sublist us := by
  induction h with
  | done => exact .slnil
  | used _ _ ih => exact ih.cons_cons _
  | gone _ _ ih => exact ih.cons _

/-- The oracle has failed at a question, and with it the run. -/
def FailsAt (team : Collaborators) {α : Type} (outcome : Except Abort α × Progress) : Prop :=
  ∃ oracle n request text q, team.oracle = some oracle ∧ oracle n request = .failure text ∧
    outcome = (.error (.failed text), q)

-- ---------------------------------------------------------------------------
-- The run
-- ---------------------------------------------------------------------------

/-- The page in which a tag has given way to the one that is suggested, and whether it
has. -/
def exchangedTag (page old : Text) : Option Text → Text × Bool
  | none => (page, false)
  | some new =>
    if Text.has old page then (Text.replaceFirst old new page, true) else (page, false)

/-- One script: the oracle fails, or its tag gives way to the one that is suggested. -/
theorem replaceScriptTag_cases (source : Element → Option Text) (team : Collaborators)
    (page : Text) (e : Element) (error : Text) (s : Progress) :
    FailsAt team (replaceScriptTag source team page e error s) ∨
      ∃ q, (team.oracle = none ∨ q.questions.length = s.questions.length + 1) ∧
        replaceScriptTag source team page e error s =
          (.ok (exchangedTag page e.text (suggested? team s.questions.length (e, error))), q) := by
  unfold replaceScriptTag suggested?
  dsimp only
  cases hOracle : team.oracle with
  | none => exact .inr ⟨_, .inl rfl, Run.bind_of_ok _ (Run.ask_of_none ..)⟩
  | some oracle =>
    dsimp only
    cases hReply : oracle s.questions.length (ScriptTagContext.request ⟨e.text, error⟩) with
    | failure text =>
      exact .inl ⟨oracle, _, _, text, _, hOracle, hReply,
        Run.bind_of_error _ (Run.ask_of_failure hReply)⟩
    | unavailable reason =>
      refine .inr ⟨_, .inr ?_, Run.bind_of_ok _ (Run.ask_of_unavailable hReply)⟩
      simp
    | answer answer =>
      rw [Run.bind_of_ok _ (Run.ask_of_answer hReply)]
      dsimp only
      cases ScriptTagContext.readAnswer ⟨e.text, error⟩ answer with
      | none =>
        refine .inr ⟨_, .inr ?_, Run.log_bind_apply _ _ _⟩
        simp
      | some new =>
        dsimp only [exchangedTag]
        split
        all_goals
          refine .inr ⟨_, .inr ?_, Run.log_bind_apply _ _ _⟩
          simp

/-- All scripts, one after the other: the oracle fails, or the suggestions are used. -/
theorem replaceScriptTags_run (failed : List (Element × Text)) : ∀ (page : Text) (s : Progress),
    FailsAt team (replaceScriptTags source team page failed s) ∨
      ∃ fixes q,
        replaceScriptTags source team page failed s = (.ok (inTurn page fixes, fixes.length), q) ∧
        Used page (suggestions team s.questions.length failed) fixes := by
  induction failed with
  | nil =>
    intro page s
    exact .inr ⟨[], s, rfl, .done⟩
  | cons x rest ih =>
    obtain ⟨e, error⟩ := x
    intro page s
    rw [replaceScriptTags]
    rcases replaceScriptTag_cases source team page e error s with
      ⟨oracle, n, request, text, q, hOracle, hReply, hFails⟩ | ⟨q, hNumber, hTag⟩
    · exact .inl ⟨oracle, n, request, text, q, hOracle, hReply, Run.bind_of_error _ hFails⟩
    rw [Run.bind_of_ok _ hTag]
    dsimp only
    rcases ih (exchangedTag page e.text (suggested? team s.questions.length (e, error))).1 q with
      ⟨oracle, n, request, text, q', hOracle, hReply, hFails⟩ | ⟨fixes, q', hRest, hUsed⟩
    · exact .inl ⟨oracle, n, request, text, q', hOracle, hReply, Run.bind_of_error _ hFails⟩
    have hLater : suggestions team q.questions.length rest =
        suggestions team (s.questions.length + 1) rest := by
      rcases hNumber with hNone | hNext
      · rw [suggestions_of_none hNone, suggestions_of_none hNone]
      · rw [hNext]
    rw [hLater] at hUsed
    rw [Run.bind_of_ok _ hRest, suggestions]
    cases hNew : suggested? team s.questions.length (e, error) with
    | none =>
      rw [hNew] at hUsed
      exact .inr ⟨fixes, q', rfl, hUsed⟩
    | some new =>
      rw [hNew] at hUsed
      dsimp only [exchangedTag] at hUsed ⊢
      by_cases hHas : Text.has e.text page = true
      · rw [if_pos hHas] at hUsed ⊢
        exact .inr ⟨(e, new) :: fixes, q', rfl, .used hHas hUsed⟩
      · rw [if_neg hHas] at hUsed ⊢
        exact .inr ⟨fixes, q', rfl, .gone (by simpa using hHas) hUsed⟩

-- ---------------------------------------------------------------------------
-- Which scripts were not loaded
-- ---------------------------------------------------------------------------

/-- A script with an error is the one that a resource matches, and has its error. -/
theorem mem_failedScripts {scripts : List Element} {x : Element × Text} :
    ∀ {rs : List Page.FailedResource} {seen : List Text}, x ∈ failedScripts source scripts seen rs →
      x.1.text ∉ seen ∧ ∃ r ∈ rs, r.scriptBy? source scripts = some x.1 ∧ r.error = x.2 := by
  intro rs
  induction rs with
  | nil =>
    intro seen h
    simp [failedScripts] at h
  | cons r rs ih =>
    intro seen h
    have hLater {seen : List Text} (h : x ∈ failedScripts source scripts seen rs) :
        x.1.text ∉ seen ∧ ∃ r' ∈ r :: rs, r'.scriptBy? source scripts = some x.1 ∧ r'.error = x.2 := by
      obtain ⟨hNew, r', hr', hSame⟩ := ih h
      exact ⟨hNew, r', List.mem_cons_of_mem _ hr', hSame⟩
    rw [failedScripts] at h
    split at h
    · exact hLater h
    · next e hMatch =>
      split at h
      · exact hLater h
      · next hNew =>
        rcases List.mem_cons.mp h with rfl | h
        · exact ⟨by simpa using hNew, r, List.mem_cons_self .., hMatch, rfl⟩
        · obtain ⟨hSeen, hFound⟩ := hLater h
          exact ⟨fun hMem => hSeen (List.mem_cons_of_mem _ hMem), hFound⟩

/-- Every text is taken once. -/
theorem nodup_failedScripts {scripts : List Element} :
    ∀ {rs : List Page.FailedResource} {seen : List Text},
      ((failedScripts source scripts seen rs).map fun x => x.1.text).Nodup := by
  intro rs
  induction rs with
  | nil =>
    intro seen
    exact List.nodup_nil
  | cons r rs ih =>
    intro seen
    rw [failedScripts]
    split
    · exact ih
    · next e _ =>
      split
      · exact ih
      · rw [List.map_cons, List.nodup_cons]
        refine ⟨fun hMem => ?_, ih⟩
        obtain ⟨x, hx, hSame⟩ := List.mem_map.mp hMem
        exact (mem_failedScripts hx).1 (hSame ▸ List.mem_cons_self ..)

-- ---------------------------------------------------------------------------
-- What suggestions are
-- ---------------------------------------------------------------------------

theorem suggestions_sublist (team : Collaborators) (failed : List (Element × Text)) :
    ∀ n, ((suggestions team n failed).map Prod.fst).Sublist (failed.map Prod.fst) := by
  induction failed with
  | nil => exact fun n => .slnil
  | cons x rest ih =>
    intro n
    rw [suggestions]
    split
    · exact (ih (n + 1)).cons _
    · exact (ih (n + 1)).cons_cons _

/-- A suggestion is what an answer gives. -/
theorem exists_answer_of_mem_suggestions : ∀ {n : Nat}, u ∈ suggestions team n failed →
    ∃ error answer, Answers team (ScriptTagContext.request ⟨u.1.text, error⟩) answer ∧
      ScriptTagContext.readAnswer ⟨u.1.text, error⟩ answer = some u.2 := by
  induction failed with
  | nil =>
    intro n h
    simp [suggestions] at h
  | cons x rest ih =>
    intro n h
    rw [suggestions] at h
    split at h
    · exact ih h
    · next new hNew =>
      rcases List.mem_cons.mp h with rfl | h
      · unfold suggested? at hNew
        dsimp only at hNew
        split at hNew
        · simp at hNew
        · next oracle hOracle =>
          split at hNew
          · next answer hReply =>
            exact ⟨x.2, answer, ⟨oracle, n, hOracle, hReply⟩, hNew⟩
          · simp at hNew
      · exact ih h

/-- What is found in an answer is a script and nothing else. -/
theorem isWhole_of_scriptHere {t : Text} (h : ScriptTagContext.scriptHere t = some new) :
    IsWhole .script new := by
  rw [ScriptTagContext.scriptHere] at h
  split at h
  · simp at h
  next r hOpener =>
  split at h
  · simp at h
  next inner body hTag =>
  obtain ⟨rest, hCloser, rfl⟩ := Option.map_eq_some_iff.mp h
  obtain ⟨rfl, hInner⟩ := Text.upTo?_eq_some.mp hTag
  have hBody : body = body.takeWhile (· ≠ '<') ++ ("</script>".toList ++ rest) := by
    rw [← Text.after?_eq_some.mp hCloser, List.takeWhile_append_dropWhile]
  have hContent : Document.IsContent .script (body.takeWhile (· ≠ '<')) := by
    have hNone : '<' ∉ body.takeWhile (· ≠ '<') := by
      intro hMem
      have hOther := List.all_eq_true.mp List.all_takeWhile '<' hMem
      simp at hOther
    intro hInfix
    exact Text.lt_not_mem_map_fold hNone (hInfix.subset (by decide))
  have hText : t = "<script".toList ++ inner ++ ['>'] ++ body.takeWhile (· ≠ '<') ++
      "</script>".toList ++ rest := by
    rw [Text.after?_eq_some.mp hOpener]
    conv => lhs; rw [hBody]
    simp only [List.append_assoc, List.cons_append, List.nil_append]
  rw [hText, List.length_append, Nat.add_sub_cancel, List.take_left]
  exact ⟨"<script".toList ++ inner ++ ['>'], body.takeWhile (· ≠ '<'), "</script>".toList,
    Document.element?_eq_some_iff.mpr
      ⟨⟨"<script".toList, inner, rfl, by decide, hInner⟩, hContent, by decide, by simp⟩⟩

theorem isWhole_of_readAnswer {c : ScriptTagContext} {answer : Text}
    (h : c.readAnswer answer = some new) : IsWhole .script new := by
  obtain ⟨⟨before, found⟩, hSearch, rfl⟩ :=
    Option.map_eq_some_iff.mp (Option.filter_eq_some_iff.mp h).1
  obtain ⟨rest, -, hHere⟩ := Text.search_eq_some hSearch
  exact isWhole_of_scriptHere hHere

-- ---------------------------------------------------------------------------
-- The page
-- ---------------------------------------------------------------------------

/-- The scripts of a page that were not loaded, each with the error, when the page is run
next. -/
def failedIn (source : Element → Option Text) (team : Collaborators) (page : Text) (s : Progress) :
    List (Element × Text) :=
  match team.executor with
  | none => []
  | some executor =>
    failedScripts source (sourcedScripts source page) []
      (Page.failedResources (executor s.settleTimes.length page))

theorem mem_sourcedScripts_of_mem_failedIn {x : Element × Text}
    (h : x ∈ failedIn source team page s) :
    x.1 ∈ sourcedScripts source page ∧ ∃ executor resource, team.executor = some executor ∧
      resource ∈ Page.failedResources (executor s.settleTimes.length page) ∧
      resource.scriptBy? source (sourcedScripts source page) = some x.1 := by
  unfold failedIn at h
  split at h
  · simp at h
  · next executor hExecutor =>
    obtain ⟨-, resource, hResource, hMatch, -⟩ := mem_failedScripts h
    exact ⟨List.mem_of_find?_eq_some hMatch, executor, resource, hExecutor, hResource, hMatch⟩

theorem nodup_failedIn (source : Element → Option Text) (team : Collaborators) (page : Text)
    (s : Progress) : ((failedIn source team page s).map fun x => x.1.text).Nodup := by
  unfold failedIn
  split
  · exact List.nodup_nil
  · exact nodup_failedScripts

/-- Suggestions that are used are for scripts that were not loaded. -/
theorem map_fst_of_used (h : Used page (suggestions team n failed) fixes) :
    (fixes.map Prod.fst).Sublist (failed.map Prod.fst) :=
  (h.sublist.map Prod.fst).trans (suggestions_sublist ..)

/-- Suggestions that are used are for different scripts of the page. -/
theorem exchangeable_of_used (h : Used page (suggestions team n (failedIn source team page s)) fixes) :
    Exchangeable .script page fixes := by
  have hDistinct : ((failedIn source team page s).map Prod.fst).Nodup := by
    have hTexts := nodup_failedIn source team page s
    rw [← Function.comp_def Element.text Prod.fst, ← List.map_map] at hTexts
    exact hTexts.of_map _
  constructor
  case distinct => exact hDistinct.sublist (map_fst_of_used h)
  case found =>
    intro u hu
    obtain ⟨x, hx, hSame⟩ := List.mem_map.mp ((map_fst_of_used h).subset (List.mem_map_of_mem hu))
    rw [← hSame]
    exact List.mem_of_mem_filter (mem_sourcedScripts_of_mem_failedIn hx).1
  case whole =>
    intro u hu
    obtain ⟨error, answer, -, hRead⟩ := exists_answer_of_mem_suggestions (h.sublist.subset hu)
    exact isWhole_of_readAnswer hRead
  case other =>
    intro u hu
    obtain ⟨error, answer, -, hRead⟩ := exists_answer_of_mem_suggestions (h.sublist.subset hu)
    exact scriptTag_ne hRead

/-- The pass at work on a page: the oracle fails, or the suggestions are used. -/
theorem scriptTag_repair (source : Element → Option Text) (team : Collaborators) (page : Text)
    (s : Progress) :
    FailsAt team ((scriptTagBy source).repair team page s) ∨
      ∃ fixes q, (scriptTagBy source).repair team page s = (.ok (inTurn page fixes, fixes.length), q) ∧
        Used page (suggestions team s.questions.length (failedIn source team page s)) fixes := by
  unfold scriptTagBy failedIn
  dsimp only
  cases hExecutor : team.executor with
  | none => exact .inr ⟨[], _, Run.log_bind_apply _ _ _, .done⟩
  | some executor =>
    dsimp only
    rw [Run.execute_bind_apply]
    exact replaceScriptTags_run _ page (s.settling none)

/-- **Which tags give way.** The pass is aborted only if the oracle fails. Otherwise the
fixes counted are the suggestions whose old text still stands in the page when their turn
comes, and the page is the one in which these texts were replaced, one after the other,
each where it stands first. They are the tags of different external scripts, each matched
to a resource that was not loaded. As long as every tag has given way in its own place, the
next one does so exactly if its text stands nowhere before it; if that is always so, nothing
but these tags has changed. All this is so however the source of a script is read. -/
theorem scriptTag_replaces_first (source : Element → Option Text) (team : Collaborators)
    (page : Text) (s : Progress) :
    FailsAt team ((scriptTagBy source).run team page s) ∨
      ∃ fixes r q, (scriptTagBy source).run team page s = (.ok r, q) ∧ r.fixes = fixes.length ∧
        r.page = inTurn page fixes ∧
        Used page (suggestions team s.questions.length (failedIn source team page s)) fixes ∧
        (fixes.map Prod.fst).Nodup ∧
        (∀ u ∈ fixes, u.1 ∈ sourcedScripts source page ∧ ∃ executor resource,
          team.executor = some executor ∧
          resource ∈ Page.failedResources (executor s.settleTimes.length page) ∧
          resource.scriptBy? source (sourcedScripts source page) = some u.1) ∧
        (∀ done u later, fixes = done ++ u :: later →
          inTurn page done = inPlace .script done page →
          (inTurn page (done ++ [u]) = inPlace .script (done ++ [u]) page ↔
            StandsFirst .script done page u.1)) ∧
        ((∀ done u later, fixes = done ++ u :: later → StandsFirst .script done page u.1) →
          r.page = inPlace .script fixes page) := by
  have hApplies : (scriptTagBy source).applies page = true := rfl
  rcases scriptTag_repair source team page (s.noting (.passStarted scriptTagName)) with
    ⟨oracle, n, request, text, q, hOracle, hReply, hFails⟩ | ⟨fixes, q, hRepair, hUsed⟩
  · exact .inl ⟨oracle, n, request, text, q, hOracle, hReply, run_of_error hApplies hFails⟩
  have hFixes := exchangeable_of_used hUsed
  have hPage : (if fixes.length = 0 then page else inTurn page fixes) = inTurn page fixes := by
    split
    · next hNone =>
      rw [List.length_eq_zero_iff.mp hNone]
      rfl
    · rfl
  refine .inr ⟨fixes, _, _, run_of_ok hApplies hRepair, rfl, hPage, hUsed, hFixes.distinct, ?_, ?_,
    ?_⟩
  · intro u hu
    obtain ⟨x, hx, hSame⟩ :=
      List.mem_map.mp ((map_fst_of_used hUsed).subset (List.mem_map_of_mem hu))
    rw [← hSame]
    exact mem_sourcedScripts_of_mem_failedIn hx
  · rintro done u later rfl hDone
    exact hFixes.inTurn_concat_iff hDone
  · intro hFirst
    exact hPage.trans (hFixes.inTurn_eq_inPlace hFirst)

/-- A script that is loaded from an address. -/
def loading (address : Text) : Text :=
  "<script src=".toList ++ address ++ "></script>".toList

/-- Two scripts on one line. -/
def twoScripts : Text := loading "a.js".toList ++ loading "b.js".toList

/-- The elements that they are. -/
def firstScript : Element :=
  ⟨.script, "<script src=a.js>".toList, [], "</script>".toList, 0, 1⟩

def secondScript : Element :=
  ⟨.script, "<script src=b.js>".toList, [], "</script>".toList, 26, 1⟩

/-- Neither script is loaded. The first reply gives the tag of the second script, the second
reply gives another one. -/
def neitherLoaded : Collaborators where
  oracle := some fun n _ => .answer (loading (if n = 0 then "b.js".toList else "c.js".toList))
  executor := some fun _ _ =>
    ["a.js".toList, "b.js".toList].map fun url => ⟨.requestFailed, [], none, some url⟩

/-- The tag that was put in for the first script gives way to the one for the second, and the
second script stays. -/
theorem scriptTag_replaces_first_twoScripts : ∃ r q,
    scriptTag.run neitherLoaded twoScripts .initial = (.ok r, q) ∧ r.fixes = 2 ∧
      r.page = loading "c.js".toList ++ loading "b.js".toList ∧
      inPlace .script [(firstScript, loading "b.js".toList), (secondScript, loading "c.js".toList)]
        twoScripts = loading "b.js".toList ++ loading "c.js".toList ∧
      ¬ StandsFirst .script [(firstScript, loading "b.js".toList)] twoScripts secondScript := by
  have hSuggested : suggestions neitherLoaded 0 (failedIn Element.source? neitherLoaded twoScripts .initial) =
      [(firstScript, loading "b.js".toList), (secondScript, loading "c.js".toList)] := by
    decide +kernel
  have hInPlace : inPlace .script
      [(firstScript, loading "b.js".toList), (secondScript, loading "c.js".toList)] twoScripts =
        loading "b.js".toList ++ loading "c.js".toList := by
    decide +kernel
  have hInTurn : inTurn twoScripts
      [(firstScript, loading "b.js".toList), (secondScript, loading "c.js".toList)] =
        loading "c.js".toList ++ loading "b.js".toList := by
    decide
  rcases scriptTag_replaces_first Element.source? neitherLoaded twoScripts .initial with
    ⟨oracle, n, request, text, q, hOracle, hReply, -⟩ |
      ⟨fixes, r, q, hRun, hCount, hPage, hUsed, -, -, hStep, -⟩
  · -- this oracle does not fail
    rw [← Option.some.inj hOracle] at hReply
    simp at hReply
  have hFixes : fixes =
      [(firstScript, loading "b.js".toList), (secondScript, loading "c.js".toList)] := by
    rw [show Progress.initial.questions.length = 0 from rfl, hSuggested] at hUsed
    cases hUsed with
    | gone hGone _ => exact absurd hGone (by decide)
    | used _ hRest =>
      cases hRest with
      | gone hGone _ => exact absurd hGone (by decide)
      | used _ hRest =>
        cases hRest
        rfl
  subst hFixes
  have hSecond := hStep [(firstScript, loading "b.js".toList)] _ [] rfl (by decide +kernel)
  rw [List.singleton_append, hInTurn, hInPlace] at hSecond
  exact ⟨r, q, hRun, hCount, hPage.trans hInTurn, hInPlace, mt hSecond.mpr (by decide)⟩

end Pass

end SketchRepair
