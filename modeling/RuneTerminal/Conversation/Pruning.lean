import Mathlib.Algebra.GroupWithZero.Nat
import RuneTerminal.Conversation.Store
import Mathlib.Data.List.Infix

/-! `pruneCompletionHistory` goes back from the newest message until one of two budgets is used up.
A budget below one is no budget, and the newest message is kept whatever it costs. -/

namespace RuneTerminal.Conversation

open Go.Strings List

structure ChatMessage where
  role : MessageRole
  content : String

structure HistoryBudget where
  maxMessages : Int
  maxChars : Int

def compactMessage (message : Message) : Option ChatMessage :=
  let content := trimSpace message.content
  if content = "" then none
  else
    match message.role with
    | .user | .assistant => some { role := message.role, content := content }
    | _ => none

def pruneFrom (maxMessages maxChars : Int) :
    List ChatMessage → Int → List ChatMessage → List ChatMessage
  | tail, _, [] => tail
  | tail, totalChars, message :: older =>
    let messageChars : Int := message.content.length
    if maxMessages ≤ tail.length then tail
    else if 0 < tail.length ∧ 0 < maxChars ∧ maxChars < totalChars + messageChars then tail
    else pruneFrom maxMessages maxChars (tail ++ [message]) (totalChars + messageChars) older

def pruneCompletionHistory (history : List Message) (budget : HistoryBudget) : List ChatMessage :=
  let compact := history.filterMap compactMessage
  if compact = [] then []
  else
    let maxMessages : Int :=
      if budget.maxMessages < 1 then compact.length else budget.maxMessages
    (pruneFrom maxMessages budget.maxChars [] 0 compact.reverse).reverse

section

variable {α : Type} {allowed : List α → Prop} {whole kept : List α}

structure LongestSuffix (allowed : List α → Prop) (whole kept : List α) : Prop where
  isSuffix : kept <:+ whole
  isAllowed : allowed kept
  longest : ∀ other, other <:+ whole → allowed other → other.length ≤ kept.length

theorem longest_suffix_of_next
    (closed : ∀ longer shorter, shorter <:+ longer → allowed longer → allowed shorter)
    {before : List α} (split : before ++ kept = whole) (isAllowed : allowed kept)
    (stops : ∀ next, before.getLast? = some next → ¬allowed (next :: kept)) :
    LongestSuffix allowed whole kept where
  isSuffix := ⟨before, split⟩
  isAllowed := isAllowed
  longest := by
    intro other isSuffix otherAllowed
    by_contra longer
    cases last : before.getLast? with
    | none =>
      rw [getLast?_eq_none_iff] at last
      rw [last] at split
      rw [← split] at isSuffix
      exact longer isSuffix.length_le
    | some next =>
      have nextSuffix : next :: kept <:+ whole := by
        rw [← split, ← dropLast_append_getLast? next last, append_assoc]
        exact suffix_append _ _
      have within : next :: kept <:+ other := by
        apply suffix_of_suffix_length_le nextSuffix isSuffix
        rw [length_cons]
        omega
      exact stops next last (closed other _ within otherAllowed)

end

def charsOf (messages : List ChatMessage) : Nat :=
  (messages.map fun message => message.content.length).sum

def WithinBudget (budget : HistoryBudget) (messages : List ChatMessage) : Prop :=
  messages.length ≤ budget.maxMessages ∧ charsOf messages ≤ budget.maxChars

def WithinPositive (budget : HistoryBudget) (messages : List ChatMessage) : Prop :=
  (1 ≤ budget.maxMessages → messages.length ≤ budget.maxMessages) ∧
    (1 ≤ budget.maxChars → charsOf messages ≤ budget.maxChars)

def OrNewest (within : List ChatMessage → Prop) (messages : List ChatMessage) : Prop :=
  within messages ∨ messages.length ≤ 1

section

variable {budget : HistoryBudget} {longer shorter messages : List ChatMessage}

theorem chars_of_suffix (isSuffix : shorter <:+ longer) : charsOf shorter ≤ charsOf longer := by
  obtain ⟨before, rfl⟩ := isSuffix
  unfold charsOf
  rw [map_append, sum_append]
  omega

theorem within_of_suffix (isSuffix : shorter <:+ longer)
    (within : OrNewest (WithinPositive budget) longer) :
    OrNewest (WithinPositive budget) shorter := by
  have fewer := isSuffix.length_le
  have less := chars_of_suffix isSuffix
  rcases within with ⟨count, chars⟩ | newest
  · left
    constructor
    · intro given
      omega
    · intro given
      omega
  · exact .inr (by omega)

theorem chars_of_cons (message : ChatMessage) (messages : List ChatMessage) :
    charsOf (message :: messages) = message.content.length + charsOf messages :=
  sum_cons

theorem prune_from_longest {whole before tail : List ChatMessage} {maxMessages : Int}
    (limit : maxMessages =
      if budget.maxMessages < 1 then (whole.length : Int) else budget.maxMessages)
    (split : before ++ tail.reverse = whole)
    (allowed : OrNewest (WithinPositive budget) tail.reverse) :
    LongestSuffix (OrNewest (WithinPositive budget)) whole
      (pruneFrom maxMessages budget.maxChars tail (charsOf tail.reverse)
        before.reverse).reverse := by
  have closed : ∀ longer shorter : List ChatMessage, shorter <:+ longer →
      OrNewest (WithinPositive budget) longer → OrNewest (WithinPositive budget) shorter :=
    fun longer shorter => within_of_suffix
  induction before using reverseRecOn generalizing tail with
  | nil =>
    apply longest_suffix_of_next closed split allowed
    simp
  | append_singleton earlier next ih =>
    have size : earlier.length + 1 + tail.length = whole.length := by
      rw [← split]
      simp only [length_append, length_reverse, length_singleton]
    have candidateSize : (next :: tail.reverse).length = tail.length + 1 := by simp
    have candidateChars := chars_of_cons next tail.reverse
    have lastIs : (earlier ++ [next]).getLast? = some next := getLast?_concat
    rw [reverse_append, reverse_singleton, singleton_append, pruneFrom]
    split_ifs with full spent
    · apply longest_suffix_of_next closed split allowed
      intro last isLast
      rw [lastIs] at isLast
      cases isLast
      -- Without a budget, nothing would be left to keep.
      rintro (within | newest)
      · have count := within.1 (by omega)
        omega
      · omega
    · apply longest_suffix_of_next closed split allowed
      intro last isLast
      rw [lastIs] at isLast
      cases isLast
      rintro (within | newest)
      · have chars := within.2 (by omega)
        omega
      · omega
    have total : (charsOf tail.reverse : Int) + next.content.length =
        charsOf (tail ++ [next]).reverse := by
      rw [reverse_append, reverse_singleton, singleton_append]
      omega
    rw [total]
    apply ih
    · rw [← split]
      simp
    rw [reverse_append, reverse_singleton, singleton_append]
    by_cases first : tail = []
    · subst first
      exact .inr (by simp)
    have some : 0 < tail.length := length_pos_iff.mpr first
    left
    constructor
    · intro given
      omega
    · intro given
      omega

end

/-- What is left is the longest suffix of the messages that count which is
within the budgets, or the newest one alone. -/
theorem prune_completion_history_longest (history : List Message) (budget : HistoryBudget) :
    LongestSuffix (OrNewest (WithinPositive budget)) (history.filterMap compactMessage)
      (pruneCompletionHistory history budget) := by
  unfold pruneCompletionHistory
  by_cases empty : history.filterMap compactMessage = []
  · rw [empty]
    exact ⟨suffix_rfl, .inr (by simp), fun other isSuffix _ => isSuffix.length_le⟩
  rw [if_neg empty]
  have nothing : OrNewest (WithinPositive budget) ([] : List ChatMessage).reverse :=
    .inr (by simp)
  exact prune_from_longest rfl (append_nil _) nothing

theorem empty_budget_keeps_all :
    let history : List Message :=
      [{ id := "1", role := .user, content := "Hello", status := .complete, createdAt := 0 },
        { id := "2", role := .assistant, content := "Hi", status := .complete, createdAt := 1 }]
    ¬LongestSuffix (OrNewest (WithinBudget { maxMessages := 0, maxChars := 100 }))
      (history.filterMap compactMessage)
      (pruneCompletionHistory history { maxMessages := 0, maxChars := 100 }) := by
  intro history longest
  have kept :
      (pruneCompletionHistory history { maxMessages := 0, maxChars := 100 }).length = 2 := by
    decide +kernel
  rcases longest.isAllowed with within | newest
  · have few := within.1
    rw [kept] at few
    simp at few
  · omega

end RuneTerminal.Conversation
