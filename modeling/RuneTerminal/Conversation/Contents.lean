import RuneTerminal.Conversation.Service

/-! A message is looked at through its conversation and its stored content, and the memory through
the contents it shows. Statements on the tables are described by what they do to these views. -/

namespace RuneTerminal.Conversation

open Go.Strings Kit List

variable {messages : List Message}

namespace Database

def stored (db : Database) (messageID : String) : Option (String × String) :=
  (db.messages.find? (·.message.id == messageID)).map fun row =>
    (row.conversationID, row.message.content)

def contentIn (db : Database) (conversationID messageID : String) : Option String :=
  ((db.stored messageID).filter fun entry => entry.1 == conversationID).map Prod.snd

def messageIDs (db : Database) : List String := db.messages.map (·.message.id)

def conversationIDs (db : Database) : List String := db.conversations.map (·.id)

variable {db : Database} {messageID : String}

theorem load_message_content (id : String) :
    (db.loadMessageByID id).map Message.content = (db.stored id).map Prod.snd := by
  unfold loadMessageByID stored
  rw [Option.map_map, Option.map_map]
  rfl

theorem stored_isSome_iff {id : String} : (db.stored id).isSome = true ↔ id ∈ db.messageIDs := by
  simp [stored, messageIDs]

theorem stored_eq_none_iff {id : String} : db.stored id = none ↔ id ∉ db.messageIDs := by
  rw [← stored_isSome_iff, Bool.not_eq_true, Option.isSome_eq_false_iff, Option.isNone_iff_eq_none]

def shown (messages : List Message) (messageID : String) : Option String :=
  (messages.find? (·.id == messageID)).map Message.content

theorem loaded_perm (id : String) :
    (db.loadConversationMessages id).Perm
      ((db.messages.filter (·.conversationID == id)).map Row.message) :=
  mergeSort_perm _ _

theorem shown_loaded (nodup : db.messageIDs.Nodup) (id messageID : String) :
    shown (db.loadConversationMessages id) messageID = db.contentIn id messageID := by
  have rows : (((db.messages.filter (·.conversationID == id)).map
      Row.message).map Message.id).Nodup := by
    rw [map_map]
    exact nodup.sublist (filter_sublist.map _)
  unfold shown contentIn stored
  rw [← find_key_perm Message.id (loaded_perm id).symm rows, find?_map]
  change ((find? (fun row : Row => row.message.id == messageID) _).map _).map _ = _
  rw [find_key_filter (fun row : Row => row.message.id) nodup, Option.filter_map,
    Option.map_map, Option.map_map]
  rfl

section

variable (id content : String) (status : MessageStatus) (reasoning provider model : String)

theorem stored_update (other : String) :
    (db.updateConversationMessageContent id content status reasoning provider model).stored other =
      if other = id then (db.stored other).map fun entry => (entry.1, content)
      else db.stored other := by
  unfold stored updateConversationMessageContent
  rw [find_key_map (fun row : Row => row.message.id) (by intro row; split_ifs <;> rfl)]
  cases found : db.messages.find? (fun row => row.message.id == other) with
  | none => simp
  | some row =>
    have same : row.message.id = other := by simpa using find?_some found
    by_cases isMessage : other = id
    · simp [same, isMessage]
    · simp [same, isMessage]

theorem message_ids_update :
    (db.updateConversationMessageContent id content status reasoning provider model).messageIDs =
      db.messageIDs := by
  unfold messageIDs updateConversationMessageContent
  rw [map_map]
  apply map_congr_left
  intro row _
  simp only [Function.comp_apply]
  split_ifs <;> rfl

end

theorem stored_insert (id : String) (messages : List Message) (messageID : String) :
    (db.insertConversationMessages id messages).stored messageID =
      (db.stored messageID).or ((shown messages messageID).map fun content => (id, content)) := by
  unfold stored insertConversationMessages shown
  rw [find?_append, find?_map, Option.map_or, Option.map_map, Option.map_map]
  rfl

theorem message_ids_insert (id : String) (messages : List Message) :
    (db.insertConversationMessages id messages).messageIDs =
      db.messageIDs ++ messages.map Message.id := by
  unfold messageIDs insertConversationMessages
  rw [map_append, map_map]
  rfl

theorem stored_delete (nodup : db.messageIDs.Nodup) (cascade : Bool) (id messageID : String) :
    (db.deleteConversation cascade id).stored messageID =
      if cascade then (db.stored messageID).filter (·.1 ≠ id) else db.stored messageID := by
  unfold stored deleteConversation
  split_ifs
  · rw [find_key_filter (fun row : Row => row.message.id) nodup, Option.filter_map]
    rfl
  · rfl

theorem message_ids_delete (cascade : Bool) (id : String) :
    (db.deleteConversation cascade id).messageIDs.Sublist db.messageIDs := by
  unfold messageIDs deleteConversation
  split_ifs
  · exact filter_sublist.map _
  · exact List.Sublist.refl _

theorem ids_update (record : ConversationRecord) :
    (db.updateConversation record).conversationIDs = db.conversationIDs := by
  unfold conversationIDs updateConversation
  rw [map_map]
  apply map_congr_left
  intro stored _
  simp only [Function.comp_apply]
  split_ifs with same
  · exact same.symm
  · rfl

variable {conversationID : String}

theorem content_in_iff {content : String} :
    db.contentIn conversationID messageID = some content ↔
    db.stored messageID = some (conversationID, content) := by
  unfold contentIn
  constructor
  · intro found
    obtain ⟨entry, kept, rfl⟩ := Option.map_eq_some_iff.mp found
    obtain ⟨isStored, same⟩ := Option.filter_eq_some_iff.mp kept
    rw [isStored, ← eq_of_beq same]
  · intro isStored
    simp [isStored]

def Rewritten (db after : Database) (messageID content : String) : Prop :=
  ∀ other, after.stored other =
    if other = messageID then (db.stored other).map fun entry => (entry.1, content)
    else db.stored other

theorem Rewritten.content_in {after : Database} {content : String}
    (rewritten : Rewritten db after messageID content) (id other : String) :
    after.contentIn id other =
      if other = messageID then (db.contentIn id other).map fun _ => content
      else db.contentIn id other := by
  unfold contentIn
  rw [rewritten]
  by_cases isMessage : other = messageID
  · rw [if_pos isMessage, if_pos isMessage, Option.filter_map, Option.map_map, Option.map_map]
    rfl
  · rw [if_neg isMessage, if_neg isMessage]

theorem content_in_insert (new : ∀ message ∈ messages, db.stored message.id = none) (id : String) :
    (db.insertConversationMessages conversationID messages).contentIn conversationID id =
    (db.contentIn conversationID id).or (shown messages id) := by
  unfold contentIn
  rw [stored_insert]
  cases isStored : db.stored id with
  | none => cases shown messages id <;> simp [Option.filter]
  | some entry =>
    have absent : shown messages id = none := by
      unfold shown
      rw [Option.map_eq_none_iff, find?_eq_none]
      intro message mem same
      have unstored := new message mem
      rw [eq_of_beq same, isStored] at unstored
      cases unstored
    rw [absent, Option.or_none]
    rfl

theorem content_in_insert_other {other : String} (ne : other ≠ conversationID)
    (messages : List Message) (messageID : String) :
    (db.insertConversationMessages conversationID messages).contentIn other messageID =
    db.contentIn other messageID := by
  unfold contentIn
  rw [stored_insert]
  cases db.stored messageID with
  | none => simp [Option.filter_map, ne.symm]
  | some entry => rfl

theorem content_in_delete_other (nodup : db.messageIDs.Nodup) (cascade : Bool) {other : String}
    (ne : other ≠ conversationID) (messageID : String) :
    (db.deleteConversation cascade conversationID).contentIn other messageID =
    db.contentIn other messageID := by
  unfold contentIn
  rw [stored_delete nodup]
  cases cascade with
  | false => rfl
  | true =>
    cases db.stored messageID with
    | none => rfl
    | some entry =>
      by_cases same : entry.1 = other
      · simp [Option.filter, same, ne]
      · by_cases gone : entry.1 = conversationID
        · simp [Option.filter, gone, ne.symm]
        · simp [Option.filter, gone]

theorem content_in_new_conversation
    (unknown : ∀ messageID entry, db.stored messageID = some entry → entry.1 ≠ conversationID)
    (messageID : String) : db.contentIn conversationID messageID = none := by
  rw [Option.eq_none_iff_forall_ne_some]
  intro content found
  exact unknown messageID _ (content_in_iff.mp found) rfl

theorem mem_of_shown {content : String} (isShown : shown messages messageID = some content) :
    messageID ∈ messages.map Message.id := by
  obtain ⟨message, found, _⟩ := Option.map_eq_some_iff.mp isShown
  have same : message.id = messageID := by simpa using find?_some found
  exact same ▸ mem_map_of_mem (mem_of_find?_eq_some found)

theorem shown_append (first second : List Message) (id : String) :
    shown (first ++ second) id = (shown first id).or (shown second id) := by
  unfold shown
  rw [find?_append, Option.map_or]

theorem shown_map (change : Message → Message) (rewrite : String → String) {id : String}
    (keepsID : ∀ message, message.id = id → (change message).id = id)
    (changed : ∀ message, (change message).content = rewrite message.content)
    (messages : List Message) (other : String) :
    shown (messages.map fun message => if message.id = id then change message else message)
        other =
      if other = id then (shown messages other).map rewrite else shown messages other := by
  unfold shown
  rw [find_key_map Message.id]
  · cases found : messages.find? (fun message => message.id == other) with
    | none => simp
    | some message =>
      have same : message.id = other := by simpa using find?_some found
      rw [Option.map_some, same]
      by_cases isMessage : other = id
      · simp [isMessage, changed]
      · simp [isMessage]
  · intro message
    split_ifs with isMessage
    · rw [keepsID message isMessage, isMessage]
    · rfl

end Database

/-- The messages in memory show what is stored for the active conversation. -/
structure Synced (s : Store) : Prop where
  distinct : s.db.messageIDs.Nodup
  memory : ∀ messageID, Database.shown s.messages messageID =
    s.db.contentIn s.active.id messageID

section

variable {s next : Store}

theorem Synced.reload {record : ConversationRecord} {messages : List Message} (synced : Synced s)
    (reloads : Reloads s next record messages) (nodup : next.db.messageIDs.Nodup)
    (loaded : ∀ id, Database.shown messages id = next.db.contentIn record.id id)
    (others : ∀ conversationID, conversationID ≠ record.id →
      ∀ id, next.db.contentIn conversationID id = s.db.contentIn conversationID id) :
    Synced next := by
  refine ⟨nodup, ?_⟩
  intro id
  rcases reloads with ⟨_, active, memory⟩ | ⟨ne, active, memory⟩
  · rw [active, memory, loaded]
  · rw [active, memory, others _ ne, synced.memory]

end

end RuneTerminal.Conversation
