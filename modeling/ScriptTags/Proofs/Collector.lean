import ScriptTags.Proofs.Order

/-!
# Runs of a collector

Callers may share a collector, and each of their requests is answered at once, so what happens to
it is one sequence of requests whatever the callers do. A run has two phases. Up to the first flush
every request is granted and the collector holds the tags brought so far. That flush gives all of
them back, and from then on every request is refused and changes nothing.
-/

namespace ScriptTags
namespace Collector

namespace Request

def tags : Request → List Tag
  | .append tag => [tag]
  | .extend tags => tags
  | .flush => []

/-- The operation that a refusal names. -/
def operation : Request → String
  | .append _ => "append"
  | .extend _ => "extend"
  | .flush => "flush"

end Request

def after (c : Collector) : List Request → Collector
  | [] => c
  | r :: rest => (c.step r).2.after rest

theorem step_accumulating (tags : List Tag) {r : Request} (h : r ≠ .flush) :
    (accumulating tags).step r = (.ok none, .accumulating (tags ++ r.tags)) := by
  cases r with
  | append tag => rfl
  | extend batch => rfl
  | flush => exact absurd rfl h

theorem step_flush (tags : List Tag) :
    (accumulating tags).step .flush = (.ok (some (Tag.sort tags)), .flushed) := rfl

theorem step_flushed (r : Request) :
    flushed.step r = (.error (.flushed r.operation), .flushed) := by
  cases r <;> rfl

theorem after_flushed (requests : List Request) : after .flushed requests = .flushed := by
  induction requests with
  | nil => rfl
  | cons r rest ih => rw [after, step_flushed, ih]

theorem after_accumulating (tags : List Tag) {requests : List Request}
    (h : Request.flush ∉ requests) :
    after (.accumulating tags) requests =
      .accumulating (tags ++ requests.flatMap Request.tags) := by
  induction requests generalizing tags with
  | nil => simp [after]
  | cons r rest ih =>
    rw [List.mem_cons, not_or] at h
    rw [after, step_accumulating tags (Ne.symm h.1), ih _ h.2]
    simp

theorem after_flush_mem (tags : List Tag) {requests : List Request}
    (h : Request.flush ∈ requests) : after (.accumulating tags) requests = .flushed := by
  induction requests generalizing tags with
  | nil => simp at h
  | cons r rest ih =>
    by_cases hr : r = .flush
    · rw [hr, after, step_flush, after_flushed]
    · rw [after, step_accumulating tags hr]
      exact ih _ ((List.mem_cons.mp h).resolve_left (Ne.symm hr))

theorem getElem?_run (c : Collector) (before : List Request) (r : Request)
    (rest : List Request) :
    (c.run (before ++ r :: rest))[before.length]? = some ((c.after before).step r) := by
  induction before generalizing c with
  | nil => rfl
  | cons q before ih => exact ih _

/-- What the answer to any request of a run from the empty collector is, and the collector after
it: the requests before it decide which of the three phases it falls in. -/
theorem run_empty_phases (before : List Request) (request : Request) (rest : List Request) :
    ∃ answer c, (run .empty (before ++ request :: rest))[before.length]? = some (answer, c) ∧
      (Request.flush ∉ before → request ≠ .flush →
        answer = .ok none ∧ c.state = "accumulating" ∧
          c.length = ((before ++ [request]).flatMap Request.tags).length) ∧
      (Request.flush ∉ before → request = .flush →
        c.state = "flushed" ∧ c.length = 0 ∧
        ∃ tags, answer = .ok (some tags) ∧ tags.Perm (before.flatMap Request.tags) ∧
          tags.Pairwise (fun a b => Text.codePoints a.render ≤ Text.codePoints b.render) ∧
          ∀ line, tags.filter (fun t => t.render = line) =
            (before.flatMap Request.tags).filter (fun t => t.render = line)) ∧
      (Request.flush ∈ before →
        answer = .error (.flushed request.operation) ∧ c = after .empty before ∧
          c.state = "flushed" ∧ c.length = 0) := by
  refine ⟨((after .empty before).step request).1, ((after .empty before).step request).2,
    getElem?_run _ before request rest, ?_, ?_, ?_⟩
  · intro hbefore hrequest
    rw [empty, after_accumulating [] hbefore, step_accumulating _ hrequest]
    simp [state, length, tags]
  · rintro hbefore rfl
    rw [empty, after_accumulating [] hbefore, step_flush, List.nil_append]
    exact ⟨rfl, rfl, _, rfl, Tag.sort_perm _, Tag.sort_sorted _, Tag.filter_sort _⟩
  · intro hbefore
    rw [empty, after_flush_mem [] hbefore, step_flushed]
    exact ⟨rfl, rfl, rfl, rfl⟩

end Collector
end ScriptTags
