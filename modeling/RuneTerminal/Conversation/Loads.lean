import Mathlib.Data.Prod.Lex
import RuneTerminal.Conversation.Effects
import RuneTerminal.Go.Time
import RuneTerminal.Kit.Transition

/-! What `loadConversationState` reads after each of the statements of `core/conversation/store.go`.
The list in memory is the loaded one only as long as it is in the order of times and ids. -/

namespace RuneTerminal.Conversation

open Go Go.Strings Kit List

def InOrder (messages : List Message) : Prop :=
  messages.Pairwise fun first second => messageOrder first second = true

instance (messages : List Message) : Decidable (InOrder messages) :=
  inferInstanceAs (Decidable (List.Pairwise _ _))

theorem message_order_iff {first second : Message} :
    messageOrder first second = true ↔ first.createdAt < second.createdAt ∨
    (first.createdAt = second.createdAt ∧ first.id ≤ second.id) := by
  simp [messageOrder]

theorem message_order_lex {first second : Message} : messageOrder first second = true ↔
    toLex (first.createdAt, first.id) ≤ toLex (second.createdAt, second.id) := by
  rw [message_order_iff, Prod.Lex.toLex_le_toLex]

theorem message_order_trans (first second third : Message)
    (before : messageOrder first second = true) (after : messageOrder second third = true) :
    messageOrder first third = true := by
  rw [message_order_lex] at before after ⊢
  exact before.trans after

theorem message_order_total (first second : Message) :
    (messageOrder first second || messageOrder second first) = true := by
  rw [Bool.or_eq_true, message_order_lex, message_order_lex]
  exact le_total _ _

theorem message_order_same_id {first second : Message} (before : messageOrder first second = true)
    (after : messageOrder second first = true) : first.id = second.id := by
  rw [message_order_lex] at before after
  exact (Prod.mk.inj (toLex.injective (before.antisymm after))).2

namespace Database

variable {db : Database}

theorem loaded_in_order (id : String) : InOrder (db.loadConversationMessages id) :=
  pairwise_mergeSort message_order_trans message_order_total _

variable {conversationID : String}

theorem loaded_eq_of_perm {messages : List Message}
    (same : messages.Perm
      ((db.messages.filter (·.conversationID == conversationID)).map Row.message))
    (nodup : (messages.map Message.id).Nodup) (inOrder : InOrder messages) :
    db.loadConversationMessages conversationID = messages := by
  have perm : (db.loadConversationMessages conversationID).Perm messages :=
    (loaded_perm conversationID).trans same.symm
  refine perm.eq_of_pairwise ?_ (loaded_in_order conversationID) inOrder
  intro first second isFirst isSecond before after
  exact inj_on_of_nodup_map nodup (perm.mem_iff.mp isFirst) isSecond
    (message_order_same_id before after)

theorem loaded_distinct (nodup : db.messageIDs.Nodup) (id : String) :
    ((db.loadConversationMessages id).map Message.id).Nodup := by
  rw [((loaded_perm id).map Message.id).nodup_iff, map_map]
  exact nodup.sublist (filter_sublist.map _)

theorem stored_of_loaded (nodup : db.messageIDs.Nodup) {message : Message}
    (loaded : message ∈ db.loadConversationMessages conversationID) :
    db.stored message.id = some (conversationID, message.content) := by
  obtain ⟨row, kept, rfl⟩ := mem_map.mp ((loaded_perm conversationID).mem_iff.mp loaded)
  obtain ⟨mem, home⟩ := mem_filter.mp kept
  obtain rfl := eq_of_beq home
  unfold stored
  rw [find_by_key (fun row : Row => row.message.id) nodup mem]
  rfl

theorem load_record_update (record : ConversationRecord) (id : String) :
    (db.updateConversation record).loadConversationRecord id =
      (db.loadConversationRecord id).map fun stored =>
        if stored.id = record.id then { record with createdAt := stored.createdAt }
        else stored := by
  apply find_key_map ConversationRecord.id
  intro stored
  split_ifs with same
  · exact same.symm
  · rfl

theorem Holds.updated {before record : ConversationRecord} (held : db.Holds before)
    (sameID : record.id = before.id) (sameTime : record.createdAt = before.createdAt) :
    (db.updateConversation record).Holds record := by
  unfold Holds at held ⊢
  rw [load_record_update, sameID, held, Option.map_some, if_pos rfl, ← sameID, ← sameTime]

theorem Holds.update_other {other record : ConversationRecord} (held : db.Holds other)
    (ne : other.id ≠ record.id) : (db.updateConversation record).Holds other := by
  unfold Holds at held ⊢
  rw [load_record_update, held, Option.map_some, if_neg ne]

theorem Holds.inserted {record : ConversationRecord} (new : record.id ∉ db.conversationIDs) :
    (db.insertConversation record).Holds record := by
  unfold Holds loadConversationRecord insertConversation
  have absent : db.conversations.find? (·.id == record.id) = none := by
    rw [find?_eq_none]
    intro stored mem same
    exact new (eq_of_beq same ▸ mem_row_ids mem)
  simp [absent]

theorem Holds.kept_by_delete {record : ConversationRecord} (held : db.Holds record) (cascade : Bool)
    (ne : record.id ≠ conversationID) :
    (db.deleteConversation cascade conversationID).Holds record := by
  unfold Holds loadConversationRecord at held ⊢
  dsimp only [deleteConversation]
  rw [find?_filter, ← held]
  congr 1
  funext stored
  by_cases same : stored.id = record.id
  · simp [same, ne]
  · simp [same]

section

variable {newID : String} (nodup : db.messageIDs.Nodup) (unused : Unused db newID)
include nodup unused

theorem loaded_nothing : db.loadConversationMessages newID = [] := by
  rw [eq_nil_iff_forall_not_mem]
  intro message loaded
  exact unused.2 _ _ (stored_of_loaded nodup loaded) rfl

theorem new_conversation_loads (now : Nat) :
    (db.insertConversation (newConversationRecord newID now)).Holds
      (newConversationRecord newID now) ∧
    (db.insertConversation (newConversationRecord newID now)).loadConversationMessages newID =
      [] := by
  refine ⟨Holds.inserted unused.1, ?_⟩
  rw [← loaded_nothing nodup unused]
  rfl

end

theorem loaded_after_delete (cascade : Bool) {other : String} (ne : other ≠ conversationID) :
    (db.deleteConversation cascade conversationID).loadConversationMessages other =
    db.loadConversationMessages other := by
  unfold loadConversationMessages deleteConversation
  cases cascade with
  | false => rfl
  | true =>
    rw [if_pos rfl, filter_filter]
    congr 2
    apply filter_congr
    intro row _
    by_cases same : row.conversationID = other
    · simp [same, ne]
    · simp [same]

theorem loaded_after_insert_other (messages : List Message) {other : String}
    (ne : other ≠ conversationID) :
    (db.insertConversationMessages conversationID messages).loadConversationMessages other =
    db.loadConversationMessages other := by
  unfold loadConversationMessages insertConversationMessages
  have none : (messages.map fun message => (⟨conversationID, storedMessage message⟩ : Row)).filter
      (·.conversationID == other) = [] := by
    rw [filter_eq_nil_iff]
    intro row mem
    obtain ⟨message, _, rfl⟩ := mem_map.mp mem
    simpa using ne.symm
  rw [filter_append, none, append_nil]

theorem loaded_after_insert {messages : List Message}
    (asGiven : ∀ message ∈ messages, storedMessage message = message)
    (nodup : ((db.loadConversationMessages conversationID ++ messages).map Message.id).Nodup)
    (inOrder : InOrder (db.loadConversationMessages conversationID ++ messages)) :
    (db.insertConversationMessages conversationID messages).loadConversationMessages
      conversationID =
      db.loadConversationMessages conversationID ++ messages := by
  apply loaded_eq_of_perm _ nodup inOrder
  have rows : ((messages.map fun message =>
      (⟨conversationID, storedMessage message⟩ : Row)).filter
        (·.conversationID == conversationID)).map Row.message = messages := by
    rw [filter_map, map_map]
    simp only [Function.comp_def, beq_self_eq_true, filter_true]
    conv_rhs => rw [← map_id messages]
    exact map_congr_left asGiven
  unfold insertConversationMessages
  rw [filter_append, map_append, rows]
  exact (loaded_perm conversationID).append_right messages

def rewritten (messageID content : String) (status : MessageStatus)
    (reasoning provider model : String) (message : Message) : Message :=
  if message.id = messageID then
    { message with
      content := content
      status := status
      reasoning := trimSpace reasoning
      provider := trimSpace provider
      model := trimSpace model }
  else message

theorem loaded_after_update (messageID content : String) (status : MessageStatus)
    (reasoning provider model id : String) :
    (db.updateConversationMessageContent messageID content status reasoning provider
      model).loadConversationMessages id =
      (db.loadConversationMessages id).map
        (rewritten messageID content status reasoning provider model) := by
  have sameKey : ∀ message,
      (rewritten messageID content status reasoning provider model message).createdAt =
          message.createdAt ∧
        (rewritten messageID content status reasoning provider model message).id = message.id := by
    intro message
    unfold rewritten
    split_ifs <;> exact ⟨rfl, rfl⟩
  unfold loadConversationMessages
  rw [map_mergeSort (s := messageOrder)]
  · congr 1
    unfold updateConversationMessageContent
    rw [filter_map, map_map, map_map]
    have sameHome : ∀ row : Row, ((fun row : Row => row.conversationID == id) ∘
        fun row : Row => if row.message.id = messageID then
          { row with
            message :=
              { row.message with
                content := content
                status := status
                reasoning := trimSpace reasoning
                provider := trimSpace provider
                model := trimSpace model } }
        else row) row = (row.conversationID == id) := by
      intro row
      simp only [Function.comp_apply]
      split_ifs <;> rfl
    rw [filter_congr fun row _ => sameHome row]
    apply map_congr_left
    intro row _
    simp only [Function.comp_apply, rewritten]
    split_ifs <;> rfl
  · intro first _ second _
    unfold messageOrder
    rw [(sameKey first).1, (sameKey first).2, (sameKey second).1, (sameKey second).2]

theorem loaded_after_update_other {id content : String} {status : MessageStatus}
    {reasoning provider model : String}
    (absent : ∀ message ∈ db.loadConversationMessages conversationID, message.id ≠ id) :
    (db.updateConversationMessageContent id content status reasoning provider
      model).loadConversationMessages conversationID =
      db.loadConversationMessages conversationID := by
  rw [loaded_after_update]
  conv_rhs => rw [← map_id (db.loadConversationMessages conversationID)]
  apply map_congr_left
  intro message mem
  exact if_neg (absent message mem)

end Database

def formatDBTime (value : Nat) : String :=
  Time.formatFixed value

def parseDBTime (raw : String) : Except ConversationError Nat :=
  match Time.parseRFC3339Nano raw.toList with
  | some value => .ok value
  | none => .error (.database ("parse db time " ++ raw))

/-- The columns of `conversation_messages`. -/
structure MessageRow where
  id : String
  conversationID : String
  role : MessageRole
  content : String
  attachments : List AttachmentReference
  status : MessageStatus
  provider : String
  model : String
  reasoning : String
  createdAt : String

/-- The values that `insertConversationMessagesTx` writes for a message. -/
def messageRow (conversationID : String) (message : Message) : MessageRow where
  id := message.id
  conversationID := conversationID
  role := message.role
  content := message.content
  attachments := message.attachments
  status := message.status
  provider := trimSpace message.provider
  model := trimSpace message.model
  reasoning := trimSpace message.reasoning
  createdAt := formatDBTime message.createdAt

def insertConversationMessagesTx (rows : List MessageRow) (conversationID : String)
    (messages : List Message) : List MessageRow :=
  rows ++ messages.map (messageRow conversationID)

def rowOrder (first second : MessageRow) : Bool :=
  first.createdAt < second.createdAt ||
    (first.createdAt == second.createdAt && first.id ≤ second.id)

/-- `rows.Scan` and the parse of the time. -/
def scanMessage (row : MessageRow) : Except ConversationError Message := do
  let createdAt ← parseDBTime row.createdAt
  return {
    id := row.id
    role := row.role
    content := row.content
    attachments := row.attachments
    status := row.status
    provider := row.provider
    model := row.model
    reasoning := row.reasoning
    createdAt := createdAt }

def loadConversationMessagesTx (rows : List MessageRow) (conversationID : String) :
    Except ConversationError (List Message) :=
  ((rows.filter (·.conversationID == conversationID)).mergeSort rowOrder).mapM scanMessage

def Dated (message : Message) : Prop :=
  (Time.civil message.createdAt).year ≤ 9999

theorem parse_format_db_time {value : Nat} (dated : (Time.civil value).year ≤ 9999) :
    parseDBTime (formatDBTime value) = .ok value := by
  rw [parseDBTime, formatDBTime, Time.parse_format_fixed (by omega)]

theorem dated_of_parse {value read : Nat} (parsed : parseDBTime (formatDBTime value) = .ok read) :
    (Time.civil value).year ≤ 9999 := by
  by_contra later
  rw [parseDBTime, formatDBTime, Time.parse_format_fixed_later (by omega)] at parsed
  cases parsed

section

variable {id : String} {message other : Message}

theorem scan_message_row (dated : Dated message) :
    scanMessage (messageRow id message) = .ok (Database.storedMessage message) := by
  have parsed : parseDBTime (messageRow id message).createdAt = .ok message.createdAt :=
    parse_format_db_time dated
  rw [scanMessage, parsed]
  rfl

theorem dated_of_scan {read : Message}
    (scanned : scanMessage (messageRow id message) = .ok read) : Dated message := by
  obtain ⟨createdAt, parsed, _⟩ := bind_eq_ok scanned
  exact dated_of_parse parsed

theorem row_order_iff {first second : MessageRow} : rowOrder first second = true ↔ first.createdAt <
    second.createdAt ∨ (first.createdAt = second.createdAt ∧ first.id ≤ second.id) := by
  simp [rowOrder]

theorem row_order_message_row (dated : Dated message) (otherDated : Dated other) :
    rowOrder (messageRow id message) (messageRow id other) =
    messageOrder (Database.storedMessage message) (Database.storedMessage other) := by
  unfold Dated at dated otherDated
  have less := Time.format_fixed_lt_iff (t := message.createdAt) (u := other.createdAt) (by omega)
    (by omega)
  have same := Time.format_fixed_inj (t := message.createdAt) (u := other.createdAt) (by omega)
    (by omega)
  rw [Bool.eq_iff_iff, message_order_iff, row_order_iff]
  exact or_congr less (and_congr same Iff.rfl)

end

def appendAll (batches : List (String × List Message)) : List MessageRow :=
  batches.foldl (fun rows batch => insertConversationMessagesTx rows batch.1 batch.2) []

def appended (batches : List (String × List Message)) (conversationID : String) : List Message :=
  (batches.filter (·.1 == conversationID)).flatMap Prod.snd

section

variable {batches : List (String × List Message)} {conversationID : String}

theorem rows_of_conversation : (appendAll batches).filter (·.conversationID == conversationID) =
    (appended batches conversationID).map (messageRow conversationID) := by
  induction batches using reverseRecOn with
  | nil => rfl
  | append_singleton batches batch ih =>
    rw [appendAll, foldl_append, foldl_cons, foldl_nil, ← appendAll,
      insertConversationMessagesTx, filter_append, ih, appended, appended, filter_append,
      flatMap_append]
    by_cases same : batch.1 = conversationID
    · simp [messageRow, same]
    · simp [messageRow, same]

theorem load_of_dated (dated : ∀ message ∈ appended batches conversationID, Dated message) :
    loadConversationMessagesTx (appendAll batches) conversationID =
      .ok
        (((appended batches conversationID).map Database.storedMessage).mergeSort
          messageOrder) := by
  have rowsSorted : ((appended batches conversationID).map (messageRow conversationID)).mergeSort
      rowOrder = ((appended batches conversationID).mergeSort fun first second =>
        messageOrder (Database.storedMessage first) (Database.storedMessage second)).map
          (messageRow conversationID) := by
    symm
    apply map_mergeSort
    intro first isFirst second isSecond
    exact (row_order_message_row (dated first isFirst) (dated second isSecond)).symm
  rw [loadConversationMessagesTx, rows_of_conversation, rowsSorted, mapM_map,
    map_m_eq_ok Database.storedMessage, map_mergeSort]
  · intro first _ second _
    rfl
  · intro message mem
    exact scan_message_row (dated message (mem_mergeSort.mp mem))

theorem dated_of_load {loaded : List Message}
    (load : loadConversationMessagesTx (appendAll batches) conversationID = .ok loaded) :
    ∀ message ∈ appended batches conversationID, Dated message := by
  intro message mem
  rw [loadConversationMessagesTx, rows_of_conversation] at load
  have isRow : messageRow conversationID message ∈
      ((appended batches conversationID).map (messageRow conversationID)).mergeSort rowOrder :=
    mem_mergeSort.mpr (mem_map.mpr ⟨message, mem, rfl⟩)
  obtain ⟨read, scanned⟩ := ok_of_map_m load isRow
  exact dated_of_scan scanned

theorem in_order_of_load
    (load : loadConversationMessagesTx (appendAll batches) conversationID =
      .ok ((appended batches conversationID).map Database.storedMessage)) :
    InOrder ((appended batches conversationID).map Database.storedMessage) := by
  have sorted := load_of_dated (dated_of_load load)
  rw [load] at sorted
  rw [Except.ok.inj sorted]
  exact pairwise_mergeSort message_order_trans message_order_total _

/-- Messages appended with a clock that does not go back load in the order of appending exactly if
no year has more than four digits, and of messages with the same time the earlier one has the
smaller id. -/
theorem messages_load_in_append_order_iff
    (distinct : ((appended batches conversationID).map Message.id).Nodup)
    (clock : (appended batches conversationID).Pairwise fun first second =>
      first.createdAt ≤ second.createdAt) :
    loadConversationMessagesTx (appendAll batches) conversationID =
      .ok ((appended batches conversationID).map Database.storedMessage) ↔
    (∀ message ∈ appended batches conversationID, Dated message) ∧
      (appended batches conversationID).Pairwise fun first second =>
        first.createdAt = second.createdAt → first.id < second.id := by
  constructor
  · intro load
    refine ⟨dated_of_load load, ?_⟩
    have ordered := pairwise_map.mp (in_order_of_load load)
    have apart : (appended batches conversationID).Pairwise fun first second =>
        first.id ≠ second.id := pairwise_map.mp distinct
    refine (ordered.and apart).imp ?_
    rintro first second ⟨before, differs⟩ sameTime
    rw [message_order_iff] at before
    rcases before with earlier | ⟨_, le⟩
    · exact absurd sameTime (Nat.ne_of_lt earlier)
    · exact lt_of_le_of_ne le differs
  · rintro ⟨dated, ascending⟩
    rw [load_of_dated dated, mergeSort_of_pairwise]
    rw [pairwise_map]
    refine (clock.and ascending).imp ?_
    rintro first second ⟨le, ascends⟩
    rw [message_order_iff]
    rcases Nat.lt_or_eq_of_le le with earlier | sameTime
    · exact .inl earlier
    · exact .inr ⟨sameTime, (ascends sameTime).le⟩

end

def submission (userID assistantID : String) (now : Nat) : List (String × List Message) :=
  [("conv_1",
    [ { id := userID, role := .user, content := "hello", status := .complete, createdAt := now },
      { id := assistantID, role := .assistant, content := "", status := .streaming,
        createdAt := now } ])]

theorem messages_load_in_append_order_ascending :
    loadConversationMessagesTx (appendAll (submission "msg_a" "msg_b" 63849612345120000000))
      "conv_1" =
      .ok
        ((appended (submission "msg_a" "msg_b" 63849612345120000000) "conv_1").map
          Database.storedMessage) := by
  apply (messages_load_in_append_order_iff (by decide) (by decide)).mpr
  unfold Dated
  decide

/-- With the ids the other way round the answer loads before the question. -/
theorem submission_loads_reversed :
    loadConversationMessagesTx (appendAll (submission "msg_b" "msg_a" 63849612345120000000))
      "conv_1" ≠
      .ok
        ((appended (submission "msg_b" "msg_a" 63849612345120000000) "conv_1").map
          Database.storedMessage) := by
  intro load
  exact absurd (in_order_of_load load) (by decide)

end RuneTerminal.Conversation
