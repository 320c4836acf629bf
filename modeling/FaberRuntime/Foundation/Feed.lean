import FaberRuntime.Foundation.Collections

/-! A queue that one party fills and several read, until a closing message. Whoever takes the
closing message ends the feed with its verdict. -/

namespace FaberRuntime

universe u v

variable {α : Type u} {β : Type v}

/-- The messages handed over carry whether the feed had already ended. -/
structure Feed (α : Type u) (β : Type v) where
  queue : List α
  sent : List α
  handed : List (α × Bool)
  ending : Option β
  reported : List β

namespace Feed

inductive Step (closing : α → Option β) (feed : Feed α β) : Feed α β → Prop
  | still : Step closing feed feed
  | send (message : α) (unclosed : ∀ earlier ∈ feed.sent, closing earlier = none) :
      Step closing feed { feed with
        queue := feed.queue ++ [message]
        sent := feed.sent ++ [message] }
  | hand (message : α) (rest : List α) (front : feed.queue = message :: rest) :
      Step closing feed { feed with
        queue := rest
        handed := feed.handed ++ [(message, feed.ending.isSome)]
        ending := (closing message).or feed.ending }
  | swallow (message : α) (rest : List α) (verdict : β) (front : feed.queue = message :: rest)
      (closes : closing message = some verdict) :
      Step closing feed { feed with queue := rest, ending := some verdict }
  | skip (skipped rest : List α) (message : α) (verdict : β)
      (front : feed.queue = skipped ++ message :: rest) (closes : closing message = some verdict) :
      Step closing feed { feed with
        queue := rest
        ending := some verdict
        reported := feed.reported ++ [verdict] }
  | report (verdict : β) (ended : feed.ending = some verdict) :
      Step closing feed { feed with reported := feed.reported ++ [verdict] }

def Closed (closing : α → Option β) (feed : Feed α β) (verdict : β) : Prop :=
  feed.queue = [] ∧ ∃ message, feed.sent.getLast? = some message ∧ closing message = some verdict

structure Faithful (closing : α → Option β) (feed : Feed α β) : Prop where
  order : ∃ taken, feed.sent = taken ++ feed.queue ∧ (feed.handed.map Prod.fst).Sublist taken
  fresh : ∀ entry ∈ feed.handed, entry.2 = false
  last : ∀ before message after, feed.sent = before ++ message :: after →
    closing message ≠ none → after = []
  unread : feed.ending = none → ∀ message ∈ feed.sent, closing message ≠ none →
    message ∈ feed.queue
  ended : ∀ verdict, feed.ending = some verdict → Closed closing feed verdict
  reported : ∀ verdict ∈ feed.reported, feed.ending = some verdict

theorem Faithful.unended (closing : α → Option β) (feed : Feed α β)
    (faithful : Faithful closing feed) (queued : feed.queue ≠ []) : feed.ending = none := by
  cases ending : feed.ending with
  | none => rfl
  | some verdict => exact absurd (faithful.ended verdict ending).1 queued

theorem Faithful.unreported (closing : α → Option β) (feed : Feed α β)
    (faithful : Faithful closing feed) (ending : feed.ending = none) : feed.reported = [] := by
  apply List.eq_nil_iff_forall_not_mem.mpr
  intro verdict member
  have ended := faithful.reported verdict member
  rw [ending] at ended
  exact absurd ended (by simp)

theorem Faithful.closes (closing : α → Option β) (feed : Feed α β)
    (faithful : Faithful closing feed) (skipped rest : List α) (message : α) (verdict : β)
    (front : feed.queue = skipped ++ message :: rest) (closes : closing message = some verdict) :
    rest = [] ∧ feed.sent.getLast? = some message := by
  rcases faithful.order with ⟨taken, split, _⟩
  have whole : feed.sent = (taken ++ skipped) ++ message :: rest := by
    rw [split, front, List.append_assoc]
  have empty := faithful.last _ message rest whole (by simp [closes])
  constructor
  · exact empty
  · rw [whole, empty]
    simp

theorem step_faithful (closing : α → Option β) (feed feed' : Feed α β)
    (step : Step closing feed feed') (faithful : Faithful closing feed) :
    Faithful closing feed' := by
  rcases faithful.order with ⟨taken, split, handed⟩
  cases step with
  | still => exact faithful
  | send message unclosed =>
      have unended : feed.ending = none := by
        cases ending : feed.ending with
        | none => rfl
        | some verdict =>
            rcases (faithful.ended verdict ending).2 with ⟨last, found, closes⟩
            rw [unclosed last (List.mem_of_getLast? found)] at closes
            exact absurd closes (by simp)
      constructor
      · exact ⟨taken, by simp [split], handed⟩
      · exact faithful.fresh
      · intro before found after shape closes
        by_contra follows
        have inside : found ∈ feed.sent := by
          have dropped := congrArg List.dropLast shape
          rw [List.dropLast_concat, List.dropLast_append_of_ne_nil (List.cons_ne_nil _ _),
            List.dropLast_cons_of_ne_nil follows] at dropped
          rw [dropped]
          simp
        exact closes (unclosed found inside)
      · intro _ earlier member closes
        rcases List.mem_append.mp member with member | member
        · exact absurd (unclosed earlier member) closes
        · exact List.mem_append_right _ member
      · intro verdict ended
        rw [show feed.ending = some verdict from ended] at unended
        exact absurd unended (by simp)
      · exact faithful.reported
  | hand message rest front =>
      have unended := faithful.unended closing feed (by simp [front])
      constructor
      · refine ⟨taken ++ [message], by simp [split, front], ?_⟩
        simp only [List.map_append, List.map_cons, List.map_nil]
        exact handed.append (List.Sublist.refl _)
      · intro entry member
        rcases List.mem_append.mp member with member | member
        · exact faithful.fresh entry member
        · rw [List.mem_singleton.mp member, unended]
          rfl
      · exact faithful.last
      · intro open_still earlier member closes
        simp only [unended, Option.or_none] at open_still
        have queued := faithful.unread unended earlier member closes
        rw [front] at queued
        rcases List.mem_cons.mp queued with rfl | queued
        · exact absurd open_still closes
        · exact queued
      · intro verdict ended
        simp only [unended, Option.or_none] at ended
        have closed := faithful.closes closing feed [] rest message verdict front ended
        exact ⟨closed.1, message, closed.2, ended⟩
      · simp [faithful.unreported closing feed unended]
  | swallow message rest verdict front closes =>
      have unended := faithful.unended closing feed (by simp [front])
      have closed := faithful.closes closing feed [] rest message verdict front closes
      constructor
      · exact ⟨taken ++ [message], by simp [split, front], handed.trans (List.sublist_append_left _ _)⟩
      · exact faithful.fresh
      · exact faithful.last
      · intro open_still
        exact absurd open_still (by simp)
      · intro other ended
        rw [← Option.some.inj ended]
        exact ⟨closed.1, message, closed.2, closes⟩
      · simp [faithful.unreported closing feed unended]
  | skip skipped rest message verdict front closes =>
      have unended := faithful.unended closing feed (by simp [front])
      have closed := faithful.closes closing feed skipped rest message verdict front closes
      constructor
      · exact ⟨taken ++ skipped ++ [message], by simp [split, front],
          handed.trans (by simp)⟩
      · exact faithful.fresh
      · exact faithful.last
      · intro open_still
        exact absurd open_still (by simp)
      · intro other ended
        rw [← Option.some.inj ended]
        exact ⟨closed.1, message, closed.2, closes⟩
      · simp [faithful.unreported closing feed unended]
  | report verdict ended =>
      constructor
      · exact ⟨taken, split, handed⟩
      · exact faithful.fresh
      · exact faithful.last
      · exact faithful.unread
      · exact faithful.ended
      · intro other member
        rcases List.mem_append.mp member with member | member
        · exact faithful.reported other member
        · rw [List.mem_singleton.mp member]
          exact ended

end Feed

end FaberRuntime
