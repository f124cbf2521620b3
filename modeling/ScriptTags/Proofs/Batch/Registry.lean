import Mathlib.Data.List.Basic
import Mathlib.Data.List.Induction
import ScriptTags.Proofs.Batch.Outcome

/-!
# Runs of a registry

A registry is changed by five kinds of request, and two of them repair it on the way. Still the
extractor of a language can be told from the requests alone: it is the one put in place last. Only
the default language has an extractor without that, from the first file on that was read by itself.
-/

namespace ScriptTags
namespace Registry

open Files

namespace Request

/-- The extractor that a request puts in place for a language, whatever there was before. -/
def installs? (language : String) : Request → Option Extractor
  | .register other e => if other = language then some e else none
  | .setUp | .batch _ => if language = "javascript" then some .builtIn else none
  | .get _ | .extract _ => none

/-- Whether a request reads a single file. -/
def reads : Request → Bool
  | .extract _ => true
  | _ => false

end Request

/-- The extractor of a language after requests to the empty registry: the one put in place last. If
there is none, the default language has the built-in extractor as soon as a file was read. -/
def inPlace (language : String) (requests : List Request) : Option Extractor :=
  ((requests.filterMap (Request.installs? language)).getLast?).or
    (if language = "javascript" ∧ requests.any Request.reads then some .builtIn else none)

def after (r : Registry) (fs : FileSystem) (requests : List Request) : Registry :=
  requests.foldl (fun r q => (r.step fs q).2) r

theorem after_concat (r : Registry) (fs : FileSystem) (requests : List Request) (q : Request) :
    r.after fs (requests ++ [q]) = ((r.after fs requests).step fs q).2 := by
  rw [after, List.foldl_append]
  rfl

theorem get?_register_of_ne (r : Registry) {language other : String} (h : other ≠ language)
    (e : Extractor) : (r.register other e).get? language = r.get? language := by
  have hkept : ∀ entry : String × Extractor,
      (entry.1 == language) = true → (entry.1 != other) = true := by
    intro entry hentry
    rw [beq_iff_eq] at hentry
    simpa [hentry] using h.symm
  have hfilter : (r.extractors.filter (·.1 != other)).find? (·.1 == language) =
      r.extractors.find? (·.1 == language) := by
    rw [List.find?_filter]
    congr 1
    funext entry
    have := hkept entry
    revert this
    cases entry.1 == language <;> simp
  simp [register, get?, List.find?_append, hfilter, h]

theorem get?_setUp (r : Registry) (language : String) :
    r.setUp.get? language = if language = "javascript" then some .builtIn else r.get? language := by
  split_ifs with h
  · subst h
    exact get?_register r _ _
  · exact get?_register_of_ne r (Ne.symm h) _

/-- A registry that is asked for the extractor of a path is set up only if it lacks the default
language, since every path is read in that language. -/
theorem get?_ensure (r : Registry) (path language : String) :
    (r.ensure (languageOf path)).get? language =
      (r.get? language).or (if language = "javascript" then some .builtIn else none) := by
  rw [languageOf_eq, ensure]
  by_cases hlanguage : language = "javascript"
  · subst hlanguage
    cases h : r.get? Language.default with
    | some e =>
      have h' : r.get? "javascript" = some e := h
      simp [h']
    | none =>
      have h' : r.get? "javascript" = none := h
      simp [h', get?_setUp]
  · cases r.get? Language.default with
    | some e => simp [hlanguage]
    | none => simp [hlanguage, get?_setUp]

theorem get?_step (r : Registry) (fs : FileSystem) (q : Request) (language : String) :
    (r.step fs q).2.get? language =
      ((q.installs? language).or (r.get? language)).or
        (if language = "javascript" ∧ q.reads then some .builtIn else none) := by
  cases q with
  | setUp | batch paths =>
    rw [step, get?_setUp]
    by_cases h : language = "javascript" <;> simp [Request.installs?, Request.reads, h]
  | register other e =>
    by_cases h : other = language
    · subst h
      simp [step, get?_register, Request.installs?]
    · simp [step, get?_register_of_ne r h, Request.installs?, Request.reads, h]
  | get other => simp [step, Request.installs?, Request.reads]
  | extract path => simp [step, get?_ensure, Request.installs?, Request.reads]

theorem getLast?_installs_concat (language : String) (requests : List Request) (q : Request) :
    ((requests ++ [q]).filterMap (Request.installs? language)).getLast? =
      (q.installs? language).or (requests.filterMap (Request.installs? language)).getLast? := by
  rw [List.filterMap_append]
  cases h : q.installs? language with
  | some e => rw [List.filterMap_cons_some h, List.filterMap_nil, List.getLast?_concat]; rfl
  | none => rw [List.filterMap_cons_none h, List.filterMap_nil, List.append_nil]; rfl

theorem get?_after (fs : FileSystem) (requests : List Request) (language : String) :
    (after {} fs requests).get? language = inPlace language requests := by
  induction requests using List.reverseRecOn with
  | nil => simp [after, inPlace, get?]
  | append_singleton requests q ih =>
    rw [after_concat, get?_step, ih, inPlace, inPlace, getLast?_installs_concat, List.any_append]
    -- An extractor put in place, by this request or before it, hides whether a file was read.
    cases q.installs? language with
    | some e => rfl
    | none =>
      cases (requests.filterMap (Request.installs? language)).getLast? with
      | some e => rfl
      | none =>
        by_cases h : language = "javascript" <;> cases requests.any Request.reads <;> simp [h]

/-- A path is read by the extractor of the default language, set up if there is none. -/
theorem extractPath_eq (r : Registry) (fs : FileSystem) (path : String) :
    r.extractPath fs path =
      ((r.get? "javascript").getD .builtIn).extract fs path "javascript" := by
  have hget := get?_ensure r path "javascript"
  rw [if_pos rfl] at hget
  rw [extractPath]
  have hlanguage : languageOf path = "javascript" := languageOf_eq path
  rw [hlanguage] at hget ⊢
  rw [hget]
  cases r.get? "javascript" <;> rfl

theorem getElem?_run (r : Registry) (fs : FileSystem) (before : List Request) (q : Request)
    (rest : List Request) :
    (r.run fs (before ++ q :: rest))[before.length]? = some ((r.after fs before).step fs q) := by
  induction before generalizing r with
  | nil => rfl
  | cons first before ih => exact ih _

/-- In a run from the empty registry the requests before one decide what it is answered, and
together with it what each language has afterwards. A file is read by the extractor in place for
the default language, which is there for every path and every registry, and a batch by the built-in
one alone. -/
theorem run_empty_history (fs : FileSystem) (before : List Request) (request : Request)
    (rest : List Request) :
    (∃ answer r, (run {} fs (before ++ request :: rest))[before.length]? = some (answer, r) ∧
      (∀ language, r.get? language = inPlace language (before ++ [request])) ∧
      (∀ language, request = .get language → answer = .found (inPlace language before)) ∧
      (∀ path, request = .extract path → answer = .extracted
        (((inPlace "javascript" before).getD .builtIn).extract fs path "javascript")) ∧
      (∀ paths, request = .batch paths → answer = .collected
        (Batch.run (fun path => extractFile fs path path) paths .empty))) ∧
    ∀ (r : Registry) (path : String), ∃ e,
      (r.ensure (languageOf path)).get? (languageOf path) = some e ∧
        r.extractPath fs path = e.extract fs path "javascript" := by
  constructor
  · refine ⟨_, _, getElem?_run _ fs before request rest, ?_, ?_, ?_, ?_⟩
    · intro language
      exact (congrArg (get? · language) (after_concat {} fs before request)).symm.trans
        (get?_after fs _ language)
    · rintro language rfl
      exact congrArg Answer.found (get?_after fs before language)
    · rintro path rfl
      rw [← get?_after fs before "javascript", ← extractPath_eq]
    · rintro paths rfl
      have hsource : (after {} fs before).setUp.extractPath fs =
          fun path => extractFile fs path path := funext (extractPath_setUp _ fs)
      rw [← hsource]
  · intro r path
    have hlanguage : languageOf path = "javascript" := languageOf_eq path
    refine ⟨(r.get? "javascript").getD .builtIn, ?_, extractPath_eq r fs path⟩
    rw [get?_ensure, hlanguage, if_pos rfl]
    cases r.get? "javascript" <;> rfl

end Registry
end ScriptTags
