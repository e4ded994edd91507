import RuneTerminal.AgentConversations.Panel
import RuneTerminal.Kit.NearestDouble

/-! The messages of a conversation as `chat-message-view.ts` shows them. Of the details of an answer
only the prompt is kept. Sort keys are doubles, which round from `2 ^ 53` on. -/

namespace RuneTerminal.AgentConversations

open Commander (trim)
open Conversation (Message MessageRole)
open Kit List

structure ChatTextMessage where
  id : String
  isUser : Bool
  content : String
  prompt : Option String := none
  sortKey : ℚ

def getMessageContent (message : Message) : String :=
  if trim message.content = "" then message.content else trim message.content

structure AssistantPrompts where
  lastUserPrompt : Option String := none
  assistantPrompts : Table String String := .empty

def AssistantPrompts.visit (prompts : AssistantPrompts) (message : Message) : AssistantPrompts :=
  if message.role = .user then
    { prompts with
      lastUserPrompt := some (getMessageContent message) |>.filter (· ≠ "") }
  else
    { prompts with
      assistantPrompts := fun id =>
        if id = message.id then prompts.lastUserPrompt else prompts.assistantPrompts id }

def collectAssistantPrompts (messages : List Message) : AssistantPrompts :=
  messages.reverse.foldl AssistantPrompts.visit {}

/-- `parseDate` is `Date.parse` of the text that an instant is sent as. -/
def createConversationMessageSortKey (parseDate : Nat → Option Int)
    (timestamp fallbackIndex : Nat) : ℚ :=
  match parseDate timestamp with
  | none => fallbackIndex
  | some value => nearestDouble (nearestDouble (value * 1000) + fallbackIndex)

def mapConversationMessageToChatMessageView (parseDate : Nat → Option Int) (message : Message)
    (prompt : Option String) (fallbackIndex : Nat) : ChatTextMessage where
  id := message.id
  isUser := message.role = .user
  content := getMessageContent message
  prompt := if message.role = .user then none else prompt
  sortKey := createConversationMessageSortKey parseDate message.createdAt fallbackIndex

def mapConversationMessagesToChatMessageViews (parseDate : Nat → Option Int)
    (messages : List Message) :
    List ChatTextMessage :=
  messages.zipIdx.map fun (message, index) =>
    mapConversationMessageToChatMessageView parseDate message
      (if message.role = .assistant then
        (collectAssistantPrompts messages).assistantPrompts message.id
      else none)
      (messages.length - index)

def sortMessagesBySortKey (views : List ChatTextMessage) : List ChatTextMessage :=
  views.mergeSort fun left right => decide (left.sortKey ≤ right.sortKey)

def lastPrompt (messages : List Message) : Option String :=
  (messages.reverse.find? fun message => message.role = .user).map getMessageContent

structure ShowsConversation (parseDate : Nat → Option Int) (messages : List Message) : Prop where
  inOrder : sortMessagesBySortKey (mapConversationMessagesToChatMessageViews parseDate messages) =
    mapConversationMessagesToChatMessageViews parseDate messages
  prompts : ∀ index message, messages[index]? = some message → message.role = .assistant →
    ((mapConversationMessagesToChatMessageViews parseDate messages)[index]?).map (·.prompt) =
      some (lastPrompt (messages.take index))

/-- The prompt from the first user message, which is none where that is empty. -/
def nextPrompt (messages : List Message) : Option String :=
  (messages.find? fun message => message.role = .user).bind fun message =>
    some (getMessageContent message) |>.filter (· ≠ "")

/-- No key is above that of the next message. -/
def KeysAscend (parseDate : Nat → Option Int) (messages : List Message) : Prop :=
  ∀ index message next, messages[index]? = some message → messages[index + 1]? = some next →
    createConversationMessageSortKey parseDate message.createdAt (messages.length - index) ≤
      createConversationMessageSortKey parseDate next.createdAt (messages.length - (index + 1))

def PromptsAgree (messages : List Message) : Prop :=
  ∀ index message, messages[index]? = some message → message.role = .assistant →
    nextPrompt (messages.drop (index + 1)) = lastPrompt (messages.take index)

variable {messages : List Message} {parseDate : Nat → Option Int} {message : Message}

theorem collect_cons (message : Message) (rest : List Message) :
    collectAssistantPrompts (message :: rest) = (collectAssistantPrompts rest).visit message := by
  unfold collectAssistantPrompts
  rw [reverse_cons, foldl_append]
  rfl

theorem last_user_prompt (messages : List Message) :
    (collectAssistantPrompts messages).lastUserPrompt = nextPrompt messages := by
  induction messages with
  | nil => rfl
  | cons message rest ih =>
    rw [collect_cons]
    unfold AssistantPrompts.visit nextPrompt
    by_cases isUser : message.role = .user
    · simp [isUser]
    · simp [isUser, ih, nextPrompt]

theorem assistant_prompt {before after : List Message}
    (ids : ((before ++ message :: after).map (·.id)).Nodup) (notUser : message.role ≠ .user) :
    (collectAssistantPrompts (before ++ message :: after)).assistantPrompts message.id =
    nextPrompt after := by
  induction before with
  | nil =>
    rw [nil_append, collect_cons, AssistantPrompts.visit, if_neg notUser]
    exact (if_pos rfl).trans (last_user_prompt after)
  | cons first rest ih =>
    rw [cons_append, map_cons, nodup_cons] at ids
    have apart : message.id ≠ first.id := by
      intro same
      exact ids.1 (mem_map.mpr ⟨message, by simp, same⟩)
    rw [cons_append, collect_cons, ← ih ids.2]
    unfold AssistantPrompts.visit
    split_ifs
    · rfl
    · exact if_neg apart

theorem view_at {index : Nat} {message : Message} (found : messages[index]? = some message) :
    (mapConversationMessagesToChatMessageViews parseDate messages)[index]? =
      some
        (mapConversationMessageToChatMessageView parseDate message
          (if message.role = .assistant then
            (collectAssistantPrompts messages).assistantPrompts message.id
          else none)
          (messages.length - index)) := by
  simp [mapConversationMessagesToChatMessageViews, found]

theorem shown_prompt (ids : (messages.map (·.id)).Nodup) {index : Nat}
    (found : messages[index]? = some message) (answer : message.role = .assistant) :
    ((mapConversationMessagesToChatMessageViews parseDate messages)[index]?).map (·.prompt) =
    some (nextPrompt (messages.drop (index + 1))) := by
  have notUser : message.role ≠ .user := by simp [answer]
  rw [view_at found, if_pos answer]
  obtain ⟨before, after, rfl, rfl⟩ := split_at_get found
  rw [assistant_prompt ids notUser]
  simp [mapConversationMessageToChatMessageView, notUser]

def sentAt (parseDate : Nat → Option Int) (message : Message) : Int :=
  (parseDate message.createdAt).getD 0

theorem in_order_iff :
    sortMessagesBySortKey (mapConversationMessagesToChatMessageViews parseDate messages) =
      mapConversationMessagesToChatMessageViews parseDate messages ↔
    KeysAscend parseDate messages := by
  let views := mapConversationMessagesToChatMessageViews parseDate messages
  have sorted : sortMessagesBySortKey views = views ↔
      views.IsChain fun left right => left.sortKey ≤ right.sortKey := by
    have total : ∀ left right : ChatTextMessage,
        (decide (left.sortKey ≤ right.sortKey) ||
          decide (right.sortKey ≤ left.sortKey)) = true := by
      intro left right
      simpa using le_total left.sortKey right.sortKey
    have transitive : ∀ first second third : ChatTextMessage,
        decide (first.sortKey ≤ second.sortKey) = true →
          decide (second.sortKey ≤ third.sortKey) = true →
            decide (first.sortKey ≤ third.sortKey) = true := by
      intro first second third
      simpa using le_trans
    constructor
    · intro same
      have pairs := pairwise_mergeSort transitive total views
      rw [show views.mergeSort _ = views from same] at pairs
      exact (pairs.imp fun ordered => of_decide_eq_true ordered).isChain
    · intro chain
      exact mergeSort_of_pairwise
        (chain.pairwise.imp fun ordered => decide_eq_true ordered)
  refine sorted.trans ?_
  have length : views.length = messages.length := by
    simp [views, mapConversationMessagesToChatMessageViews]
  have keys : ∀ (index : Nat) (bound : index < messages.length) (bound' : index < views.length),
      views[index].sortKey = createConversationMessageSortKey parseDate messages[index].createdAt
        (messages.length - index) := by
    intro index bound bound'
    have found := @view_at messages parseDate index _ (getElem?_eq_getElem bound)
    rw [getElem?_eq_getElem bound'] at found
    rw [Option.some.inj found]
    rfl
  rw [isChain_iff_getElem]
  constructor
  · intro ordered index message next found foundNext
    obtain ⟨bound, rfl⟩ := List.getElem?_eq_some_iff.mp found
    obtain ⟨boundNext, rfl⟩ := List.getElem?_eq_some_iff.mp foundNext
    rw [← keys index bound (length ▸ bound), ← keys (index + 1) boundNext (length ▸ boundNext)]
    exact ordered index (length ▸ boundNext)
  · intro ascend index bound
    have within := length ▸ bound
    rw [keys index (by omega) (by omega), keys (index + 1) within bound]
    exact ascend index _ _ (getElem?_eq_getElem _) (getElem?_eq_getElem within)

/-- The instants of the messages, in milliseconds, whose keys are exact. -/
def EarlyEnough (parseDate : Nat → Option Int) (messages : List Message) : Prop :=
  ∀ message ∈ messages, ∃ value, parseDate message.createdAt = some value ∧
    |value| * 1000 + messages.length < 2 ^ 53

theorem early_key {value : Int} {position : Nat} (parsed : parseDate message.createdAt = some value)
    (early : |value| * 1000 + position < 2 ^ 53) :
    createConversationMessageSortKey parseDate message.createdAt position =
      (value * 1000 + position : Int) := by
  have product : nearestDouble ((value * 1000 : Int) : ℚ) = (value * 1000 : Int) :=
    nearest_double_int (by rw [abs_mul]; norm_num; omega)
  have sum : nearestDouble ((value * 1000 + position : Int) : ℚ) =
      (value * 1000 + position : Int) :=
    nearest_double_int (by
      have bound := abs_add_le (value * 1000) (position : Int)
      rw [abs_mul] at bound
      norm_num at bound ⊢
      omega)
  push_cast at product sum
  rw [createConversationMessageSortKey, parsed]
  dsimp only
  rw [product, sum]
  push_cast
  rfl

theorem keys_ascend_iff (early : EarlyEnough parseDate messages) :
    KeysAscend parseDate messages ↔
      messages.IsChain fun message next => sentAt parseDate message < sentAt parseDate next := by
  have step : ∀ (index : Nat) message next, messages[index]? = some message →
      messages[index + 1]? = some next →
      (createConversationMessageSortKey parseDate message.createdAt (messages.length - index) ≤
        createConversationMessageSortKey parseDate next.createdAt (messages.length - (index + 1)) ↔
      sentAt parseDate message < sentAt parseDate next) := by
    intro index message next found foundNext
    obtain ⟨value, parsed, small⟩ := early message (mem_of_getElem? found)
    obtain ⟨later, parsedNext, smallNext⟩ := early next (mem_of_getElem? foundNext)
    have bound := (List.getElem?_eq_some_iff.mp foundNext).1
    rw [early_key parsed (by omega), early_key parsedNext (by omega), Int.cast_le, sentAt, sentAt,
      parsed, parsedNext, Option.getD_some, Option.getD_some]
    omega
  rw [isChain_iff_getElem]
  constructor
  · intro ascend index bound
    exact (step index _ _ (getElem?_eq_getElem _) (getElem?_eq_getElem bound)).mp
      (ascend index _ _ (getElem?_eq_getElem _) (getElem?_eq_getElem bound))
  · intro apart index message next found foundNext
    obtain ⟨bound, same⟩ := List.getElem?_eq_some_iff.mp foundNext
    obtain ⟨_, first⟩ := List.getElem?_eq_some_iff.mp found
    apply (step index message next found foundNext).mpr
    have less := apart index bound
    rw [same, first] at less
    exact less

/-- Prompts come from the user message behind an answer. The keys count down within one
millisecond, so equal times are reversed. -/
theorem shows_conversation_iff (parseDate : Nat → Option Int) {messages : List Message}
    (ids : (messages.map (·.id)).Nodup) :
    (ShowsConversation parseDate messages ↔ KeysAscend parseDate messages ∧ PromptsAgree messages) ∧
    (EarlyEnough parseDate messages →
      (ShowsConversation parseDate messages ↔
        (messages.IsChain fun message next => sentAt parseDate message < sentAt parseDate next) ∧
          PromptsAgree messages)) := by
  have exactly : ShowsConversation parseDate messages ↔
      KeysAscend parseDate messages ∧ PromptsAgree messages := by
    constructor
    · rintro ⟨inOrder, prompts⟩
      refine ⟨in_order_iff.mp inOrder, fun index message found answer => ?_⟩
      have shown := prompts index message found answer
      rw [shown_prompt ids found answer] at shown
      exact Option.some.inj shown
    · rintro ⟨ascend, same⟩
      refine ⟨in_order_iff.mpr ascend, fun index message found answer => ?_⟩
      rw [shown_prompt ids found answer, same index message found answer]
  refine ⟨exactly, fun early => ?_⟩
  rw [exactly, keys_ascend_iff early]

def said (id : String) (role : MessageRole) (content : String) (createdAt : Nat) : Message where
  id := id
  role := role
  content := content
  status := .complete
  createdAt := createdAt

def milliseconds (instant : Nat) : Option Int := some (instant / 1000000)

def questionAndAnswer : List Message :=
  [said "msg_1" .user "uptime" 1000000, said "msg_2" .assistant "3 days" 2000000]

theorem repeated_question_shown :
    ShowsConversation milliseconds
      (questionAndAnswer ++ [said "msg_3" .user "uptime" 3000000]) := by
  have early : EarlyEnough milliseconds
      (questionAndAnswer ++ [said "msg_3" .user "uptime" 3000000]) := by
    simp [EarlyEnough, milliseconds, questionAndAnswer, said]
  rw [(shows_conversation_iff milliseconds (by decide)).2 early]
  refine ⟨by simp [questionAndAnswer, said, sentAt, milliseconds], ?_⟩
  intro index message found answer
  match index, found with
  | 0, found =>
    cases found
    cases answer
  | 1, _ => decide
  | 2, found =>
    cases found
    cases answer

theorem answer_without_prompt : ¬∀ messages : List Message, (messages.map (·.id)).Nodup →
    messages.IsChain (fun message next => message.createdAt ≤ next.createdAt) →
    ShowsConversation milliseconds messages := by
  intro always
  have shown := (always questionAndAnswer (by decide) (by simp [questionAndAnswer, said])).prompts 1
    _ rfl rfl
  exact absurd shown (by decide)

end RuneTerminal.AgentConversations
