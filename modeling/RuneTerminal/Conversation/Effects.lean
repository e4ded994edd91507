import RuneTerminal.Conversation.Contents

/-! Every section is described by the messages whose content it may change and the conversations it
may bring; the rest is left alone, or deleted with its conversation. -/

namespace RuneTerminal.Conversation

open Go.Strings Kit List Database Option

structure Effect (s next : Store) (changed : String → Prop) (fresh : List String) : Prop where
  synced : Synced next
  kept : ∀ messageID, ¬ changed messageID →
    next.db.stored messageID = s.db.stored messageID ∨
      (next.db.stored messageID = none ∧ ∀ entry, s.db.stored messageID = some entry →
        entry.1 ∉ next.db.conversationIDs)
  rows : ∀ messageID entry, next.db.stored messageID = some entry →
    (∃ before, s.db.stored messageID = some before ∧ before.1 = entry.1) ∨
      (changed messageID ∧ entry.1 ∈ s.db.conversationIDs)
  conversationIDs : ∀ conversationID ∈ next.db.conversationIDs,
    conversationID ∈ s.db.conversationIDs ∨ conversationID ∈ fresh

section

variable {s next : Store} {conversationID newID messageID delta : String} {before db : Database}
  {now : Nat} {candidate : Option String} {cascade : Bool} {assistant : Message}
  {completion : Completion} {record : ConversationRecord}

theorem Effect.of_same_messages {changed : String → Prop} {fresh : List String}
    (same : next.db.messages = s.db.messages)
    (memory : ∀ messageID,
      Database.shown next.messages messageID = s.db.contentIn next.active.id messageID)
    (nodup : s.db.messageIDs.Nodup)
    (conversationIDs : ∀ conversationID ∈ next.db.conversationIDs,
      conversationID ∈ s.db.conversationIDs ∨ conversationID ∈ fresh) :
    Effect s next changed fresh := by
  have stored : ∀ messageID, next.db.stored messageID = s.db.stored messageID := by
    intro messageID
    unfold stored
    rw [same]
  refine ⟨⟨?_, ?_⟩, fun messageID _ => .inl (stored messageID), ?_, conversationIDs⟩
  · unfold messageIDs
    rw [same]
    exact nodup
  · intro messageID
    rw [memory]
    unfold contentIn
    rw [stored]
  · intro messageID entry isStored
    rw [stored] at isStored
    exact .inl ⟨entry, isStored, rfl⟩

theorem Effect.refl (synced : Synced s) (changed : String → Prop) (fresh : List String) :
    Effect s s changed fresh :=
  .of_same_messages rfl synced.memory synced.distinct fun _ => .inl

theorem mem_row_ids (mem : record ∈ db.conversations) : record.id ∈ db.conversationIDs :=
  mem_map_of_mem mem

theorem modified_effect (synced : Synced s) (modified : Modified s next conversationID now) :
    Effect s next (fun _ => False) [] := by
  obtain ⟨before, record, _, _, _, tables, reloads⟩ := modified
  apply Effect.of_same_messages
  · rw [tables]
    rfl
  · intro messageID
    rcases reloads with ⟨_, active, memory⟩ | ⟨_, active, memory⟩
    · rw [active, memory, shown_loaded synced.distinct]
    · rw [active, memory, synced.memory]
  · exact synced.distinct
  · intro other isMember
    rw [tables, ids_update] at isMember
    exact .inl isMember

theorem activate_conversation_effect (synced : Synced s)
    (done : s.activateConversation conversationID = .ok next) :
    Effect s next (fun _ => False) [] := by
  obtain ⟨record, _, active, memory, tables⟩ := activate_ok done
  apply Effect.of_same_messages
  · rw [tables]
    rfl
  · intro messageID
    rw [active, memory, shown_loaded synced.distinct]
  · exact synced.distinct
  · intro other isMember
    rw [tables] at isMember
    exact .inl isMember

theorem ids_insert {other : String} (mem : other ∈ (db.insertConversation record).conversationIDs) :
    other ∈ db.conversationIDs ∨ other ∈ [record.id] := by
  unfold conversationIDs insertConversation at mem
  rw [map_append, mem_append] at mem
  exact mem

def Unused (db : Database) (newID : String) : Prop :=
  newID ∉ db.conversationIDs ∧
    ∀ messageID entry, db.stored messageID = some entry → entry.1 ≠ newID

theorem create_conversation_effect (synced : Synced s) (unused : Unused s.db newID) :
    Effect s (s.createConversation newID now) (fun _ => False) [newID] := by
  apply Effect.of_same_messages
  · rfl
  · intro id
    exact (content_in_new_conversation unused.2 id).symm
  · exact synced.distinct
  · intro other isMember
    exact ids_insert isMember

theorem TakesOver.memory {messages : List Message}
    (taken : TakesOver db before candidate record messages newID) (nodup : before.messageIDs.Nodup)
    (unused : Unused before newID) (messageID : String) :
    Database.shown messages messageID = before.contentIn record.id messageID := by
  rcases taken with ⟨_, _, _, rfl⟩ | ⟨now, rfl, _, rfl⟩
  · exact shown_loaded nodup record.id messageID
  · exact (content_in_new_conversation unused.2 messageID).symm

theorem TakesOver.conversation_ids {messages : List Message} {other : String}
    (taken : TakesOver db before candidate record messages newID)
    (mem : other ∈ db.conversationIDs) : other ∈ before.conversationIDs ∨ other ∈ [newID] := by
  rcases taken with ⟨rfl, _⟩ | ⟨now, rfl, rfl, _⟩
  · exact .inl mem
  · exact ids_insert mem

theorem TakesOver.messages {messages : List Message}
    (taken : TakesOver db before candidate record messages newID) :
    db.messages = before.messages := by
  rcases taken with ⟨rfl, _⟩ | ⟨now, rfl, rfl, _⟩
  · rfl
  · rfl

theorem TakesOver.not_deleted {db : Database} {record deleted : ConversationRecord}
    {messages : List Message} {newID : String}
    (taken : TakesOver db s.db (s.db.nextConversationCandidate conversationID) record messages
      newID)
    (clean : ∀ other ∈ s.db.conversationIDs, CleanID other) (new : newID ∉ s.db.conversationIDs)
    (held : s.db.Holds deleted) (sameID : deleted.id = conversationID) :
    record.id ≠ conversationID := by
  rcases taken with ⟨_, candidate, _⟩ | ⟨_, rfl, _⟩
  · -- The candidate is another conversation, and its id is trimmed already.
    obtain ⟨other, mem, ne, trimmed⟩ := next_candidate_other candidate
    rw [trimmed, (clean _ (mem_row_ids mem)).1]
    exact ne
  · rw [← sameID]
    rintro (same : newID = deleted.id)
    exact new (same ▸ mem_row_ids held.mem)

theorem delete_effect {db : Database} {cascade : Bool} {fresh : List String}
    (nodup : s.db.messageIDs.Nodup) (same : db.messages = s.db.messages)
    (conversationIDs : ∀ other ∈ db.conversationIDs, other ∈ s.db.conversationIDs ∨ other ∈ fresh)
    (messages : next.db.messages = (db.deleteConversation cascade conversationID).messages)
    (conversations : next.db.conversations =
      (db.deleteConversation cascade conversationID).conversations)
    (ne : next.active.id ≠ conversationID)
    (memory : ∀ messageID,
      Database.shown next.messages messageID = s.db.contentIn next.active.id messageID) :
    Effect s next (fun _ => False) fresh := by
  have deleted : ∀ messageID, next.db.stored messageID =
      (s.db.deleteConversation cascade conversationID).stored messageID := by
    intro messageID
    unfold stored
    rw [messages]
    unfold deleteConversation
    rw [same]
  have removed : conversationID ∉ next.db.conversationIDs := by
    unfold Database.conversationIDs
    rw [conversations]
    simp [deleteConversation]
  refine ⟨⟨?_, ?_⟩, ?_, ?_, ?_⟩
  · have sublist : (db.deleteConversation cascade conversationID).messageIDs.Sublist
        db.messageIDs := message_ids_delete cascade conversationID
    unfold messageIDs at sublist nodup ⊢
    rw [messages]
    rw [same] at sublist
    exact nodup.sublist sublist
  · intro messageID
    have others := content_in_delete_other nodup cascade ne messageID
    unfold contentIn at others ⊢
    rw [deleted, others, memory]
    rfl
  · intro messageID _
    rw [deleted, stored_delete nodup]
    cases cascade with
    | false => exact .inl rfl
    | true =>
      cases isStored : s.db.stored messageID with
      | none => exact .inl rfl
      | some entry =>
        by_cases gone : entry.1 = conversationID
        · refine .inr ⟨by simp [Option.filter, gone], ?_⟩
          intro other same
          cases same
          rwa [gone]
        · exact .inl (by simp [Option.filter, gone])
  · intro messageID entry isStored
    rw [deleted, stored_delete nodup] at isStored
    split_ifs at isStored
    · exact .inl ⟨entry, (filter_eq_some_iff.mp isStored).1, rfl⟩
    · exact .inl ⟨entry, isStored, rfl⟩
  · intro other mem
    apply conversationIDs
    unfold Database.conversationIDs at mem ⊢
    rw [conversations] at mem
    exact (filter_sublist.map _).subset mem

section

variable (synced : Synced s)
include synced

theorem delete_conversation_effect (clean : ∀ other ∈ s.db.conversationIDs, CleanID other)
    (unused : Unused s.db newID)
    (done : s.deleteConversation cascade conversationID newID now = .ok next) :
    Effect s next (fun _ => False) [newID] := by
  obtain ⟨⟨deleted, isStored, sameID⟩, outcome⟩ := delete_conversation_ok done
  rcases outcome with ⟨ne, rfl⟩ | ⟨db, record, messages, taken, tables, active, memory⟩
  · exact delete_effect synced.distinct rfl (fun _ => .inl) rfl rfl ne synced.memory
  apply delete_effect synced.distinct taken.messages (fun _ => taken.conversation_ids)
  · rw [tables]
    rfl
  · rw [tables]
    rfl
  · rw [active]
    exact taken.not_deleted clean unused.1 isStored sameID
  · intro messageID
    rw [active, memory]
    exact taken.memory synced.distinct unused messageID

theorem archive_conversation_effect (unused : Unused s.db newID)
    (done : s.archiveConversation conversationID newID now = .ok next) :
    Effect s next (fun _ => False) [newID] := by
  rcases archive_ok done with rfl | ⟨record, _, _, outcome⟩
  · exact .refl synced _ [newID]
  have ids : (s.db.updateConversation { record with
      archivedAt := some now, updatedAt := now }).conversationIDs = s.db.conversationIDs :=
    ids_update _
  rcases outcome with ⟨_, rfl⟩ | ⟨db, follower, messages, taken, tables, active, memory⟩
  · apply Effect.of_same_messages
    · rfl
    · exact synced.memory
    · exact synced.distinct
    · intro other isMember
      exact .inl (ids ▸ isMember)
  apply Effect.of_same_messages
  · rw [tables]
    exact taken.messages
  · intro id
    rw [active, memory]
    exact taken.memory synced.distinct ⟨ids ▸ unused.1, unused.2⟩ id
  · exact synced.distinct
  intro other isMember
  rw [tables] at isMember
  rw [← ids]
  exact taken.conversation_ids isMember

theorem insert_effect {record : ConversationRecord} {messages : List Message}
    (known : record.id ∈ s.db.conversationIDs)
    (new : ∀ message ∈ messages, s.db.stored message.id = none)
    (nodup : (messages.map Message.id).Nodup)
    (tables : next.db =
      (s.db.insertConversationMessages record.id messages).updateConversation record)
    (reloads : Reloads s next record (s.db.loadConversationMessages record.id ++ messages)) :
    Effect s next (· ∈ messages.map Message.id) [] ∧
    next.db.conversationIDs = s.db.conversationIDs ∧
    ∀ messageID content, Database.shown messages messageID = some content →
      next.db.stored messageID = some (record.id, content) := by
  have stored : ∀ messageID, next.db.stored messageID = (s.db.stored messageID).or
      ((shown messages messageID).map fun content => (record.id, content)) := by
    intro messageID
    rw [tables, ← stored_insert]
    rfl
  have absent : ∀ messageID, messageID ∉ messages.map Message.id →
      shown messages messageID = none := by
    intro messageID other
    rw [eq_none_iff_forall_ne_some]
    intro content isShown
    exact other (mem_of_shown isShown)
  have conversationIDs : next.db.conversationIDs = s.db.conversationIDs := by
    rw [tables, ids_update]
    rfl
  refine ⟨⟨?_, ?_, ?_, ?_⟩, conversationIDs, ?_⟩
  · apply synced.reload reloads
    · rw [tables]
      change (s.db.insertConversationMessages record.id messages).messageIDs.Nodup
      rw [message_ids_insert, nodup_append]
      refine ⟨synced.distinct, nodup, ?_⟩
      rintro messageID isStored other isNew rfl
      obtain ⟨message, isMember, rfl⟩ := mem_map.mp isNew
      exact stored_eq_none_iff.mp (new message isMember) isStored
    · intro messageID
      rw [tables, shown_append, shown_loaded synced.distinct]
      exact (content_in_insert new messageID).symm
    · intro other ne messageID
      rw [tables]
      exact content_in_insert_other ne messages messageID
  · intro messageID unchanged
    rw [stored, absent messageID unchanged, map_none, or_none]
    exact .inl rfl
  · intro messageID entry isStored
    rw [stored] at isStored
    rcases or_eq_some_iff.mp isStored with old | ⟨_, inserted⟩
    · exact .inl ⟨entry, old, rfl⟩
    · obtain ⟨content, isShown, rfl⟩ := map_eq_some_iff.mp inserted
      exact .inr ⟨mem_of_shown isShown, known⟩
  · intro other isMember
    exact .inl (conversationIDs ▸ isMember)
  intro messageID content isShown
  obtain ⟨message, found, rfl⟩ := map_eq_some_iff.mp isShown
  have same : message.id = messageID := by simpa using find?_some found
  have unstored := new message (mem_of_find?_eq_some found)
  rw [same] at unstored
  rw [stored, unstored, isShown]
  rfl

theorem append_messages_effect {summarize : String → String} {messages : List Message}
    (new : ∀ message ∈ messages, s.db.stored message.id = none)
    (nodup : (messages.map Message.id).Nodup)
    (done : s.appendMessagesForConversation summarize conversationID messages = .ok next) :
    Effect s next (· ∈ messages.map Message.id) [] ∧ trimSpace conversationID ∈
    s.db.conversationIDs ∧ ∀ messageID content, Database.shown messages messageID = some content →
    next.db.stored messageID = some (trimSpace conversationID, content) := by
  obtain ⟨record, ⟨before, held, sameID, _⟩, isConversation, tables, reloads⟩ :=
    append_messages_ok done
  rw [← isConversation]
  have known : record.id ∈ s.db.conversationIDs := sameID ▸ mem_row_ids held.mem
  obtain ⟨effect, _, inserted⟩ := insert_effect synced known new nodup tables reloads
  exact ⟨effect, known, inserted⟩

theorem rewrite_effect {messageID content before : String}
    (isStored : s.db.stored messageID = some (conversationID, before))
    (rewritten : Database.Rewritten s.db next.db messageID content)
    (messageIDs : next.db.messageIDs = s.db.messageIDs)
    (conversationIDs : next.db.conversationIDs = s.db.conversationIDs)
    (active : next.active.id = s.active.id)
    (memory : s.active.id = conversationID →
      ∀ other, Database.shown next.messages other = next.db.contentIn conversationID other)
    (unchanged : s.active.id ≠ conversationID → next.messages = s.messages) :
    Effect s next (· = messageID) [] ∧
    next.db.stored messageID = some (conversationID, content) := by
  refine ⟨⟨⟨?_, ?_⟩, ?_, ?_, ?_⟩, ?_⟩
  · rw [messageIDs]
    exact synced.distinct
  · intro other
    rw [active]
    by_cases isActive : s.active.id = conversationID
    · rw [memory isActive, isActive]
    rw [unchanged isActive, synced.memory, rewritten.content_in]
    split_ifs with isMessage
    · have elsewhere : s.db.contentIn s.active.id messageID = none := by
        rw [eq_none_iff_forall_ne_some]
        intro shown found
        rw [content_in_iff, isStored] at found
        cases found
        exact isActive rfl
      rw [isMessage, elsewhere]
      rfl
    · rfl
  · intro other ne
    rw [rewritten, if_neg ne]
    exact .inl rfl
  · intro other entry found
    rw [rewritten] at found
    split_ifs at found
    · obtain ⟨old, wasStored, rfl⟩ := map_eq_some_iff.mp found
      exact .inl ⟨old, wasStored, rfl⟩
    · exact .inl ⟨entry, found, rfl⟩
  · intro other mem
    exact .inl (conversationIDs ▸ mem)
  · rw [rewritten, if_pos rfl, isStored]
    rfl

theorem append_delta_gone {id : String} (gone : s.db.stored id = none) :
    s.appendAssistantDelta conversationID id delta now = .error .invalidMessage := by
  have unloaded : s.db.loadMessageByID id = none := by
    have content := s.db.load_message_content id
    rw [gone] at content
    exact map_eq_none_iff.mp content
  have forgotten : s.active.id = conversationID →
      s.messages.find? (·.id == id) = none := by
    rintro rfl
    have shown := synced.memory id
    unfold contentIn at shown
    rw [gone] at shown
    exact map_eq_none_iff.mp shown
  unfold Store.appendAssistantDelta
  by_cases isActive : s.active.id = conversationID
  · simp [forgotten isActive, unloaded]
  · simp [isActive, unloaded]

end

theorem append_delta_effect {before : String} (now : Nat) (synced : Synced s)
    (nonempty : delta ≠ "") (isStored : s.db.stored messageID = some (conversationID, before)) :
    ∃ next, s.appendAssistantDelta conversationID messageID delta now = .ok next ∧
      Effect s next (· = messageID) [] ∧
      next.db.stored messageID = some (conversationID, before ++ delta) ∧
      next.db.conversationIDs = s.db.conversationIDs := by
  obtain ⟨row, isLoaded, content⟩ : ∃ message, s.db.loadMessageByID messageID = some message ∧
      message.content = before := by
    have content := s.db.load_message_content messageID
    rw [isStored] at content
    exact map_eq_some_iff.mp content
  have extended : before ++ delta ≠ "" := by
    intro blank
    exact nonempty (String.append_eq_empty_iff.mp blank).2
  have rewritten : Database.Rewritten s.db _ messageID (before ++ delta) :=
    Database.stored_update messageID (before ++ delta) .streaming "" "" ""
  unfold Store.appendAssistantDelta
  by_cases isActive : s.active.id = conversationID
  · obtain ⟨message, found, shown⟩ : ∃ message, s.messages.find? (·.id == messageID) =
        some message ∧ message.content = before := by
      have shown := synced.memory messageID
      rw [isActive, content_in_iff.mpr isStored] at shown
      exact map_eq_some_iff.mp shown
    simp only [isActive, if_true, found, map_some, getD_some, shown, extended]
    refine ⟨_, rfl, ?_⟩
    rw [← and_assoc]
    refine ⟨?_, rfl⟩
    refine rewrite_effect synced isStored rewritten ?_ rfl rfl ?_ ?_
    · exact message_ids_update _ _ _ _ _ _
    · intro _ other
      rw [rewritten.content_in, ← isActive, ← synced.memory, shown_map (fun message => {
        message with content := message.content ++ delta }) (· ++ delta) (fun _ same => same) (fun _
        => rfl)]
      split_ifs with isMessage
      · rw [isMessage, synced.memory, isActive, content_in_iff.mpr isStored]
        rfl
      · rfl
    · exact fun inactive => absurd isActive inactive
  · simp only [isActive, isLoaded, map_some, content]
    refine ⟨_, rfl, ?_⟩
    rw [← and_assoc]
    refine ⟨?_, rfl⟩
    refine rewrite_effect synced isStored rewritten ?_ rfl rfl ?_ ?_
    · exact message_ids_update _ _ _ _ _ _
    · exact fun active => absurd active isActive
    · exact fun _ => rfl

theorem loaded_iff_stored (nodup : s.db.messageIDs.Nodup) (messageID : String) :
    (∃ message ∈ s.db.loadConversationMessages conversationID, message.id = messageID) ↔
    ∃ content, s.db.stored messageID = some (conversationID, content) := by
  simp only [← content_in_iff, ← shown_loaded nodup,
    ← isSome_iff_exists, shown, isSome_map, find?_isSome, beq_iff_eq]

theorem persist_effect {nextSession : ProviderSessionState} (synced : Synced s)
    (own : ∀ entry, s.db.stored assistant.id = some entry → entry.1 = conversationID)
    (done : s.persistAssistantFinalization conversationID assistant nextSession = .ok next) :
    Effect s next (· = assistant.id) [] ∧ next.db.stored assistant.id =
    some (conversationID, assistant.content) ∧ next.db.conversationIDs = s.db.conversationIDs := by
  obtain ⟨record, before, held, rfl, sameID, _, _, _, outcome⟩ := finalization_ok done
  rw [loaded_iff_stored synced.distinct] at outcome
  have known : record.id ∈ s.db.conversationIDs := sameID ▸ mem_row_ids held.mem
  rcases outcome with ⟨⟨content, isStored⟩, tables, reloads⟩ | ⟨unknown, tables, reloads⟩
  · have rewritten : Database.Rewritten s.db next.db assistant.id assistant.content := by
      rw [tables]
      exact stored_update assistant.id assistant.content assistant.status
        assistant.reasoning assistant.provider assistant.model
    have conversationIDs : next.db.conversationIDs = s.db.conversationIDs := by
      rw [tables, ids_update]
      rfl
    rw [← and_assoc]
    refine ⟨rewrite_effect synced isStored rewritten ?_ conversationIDs ?_ ?_ ?_, conversationIDs⟩
    · rw [tables]
      exact message_ids_update _ _ _ _ _ _
    · rcases reloads with ⟨isActive, active, _⟩ | ⟨_, active, _⟩
      · rw [active, isActive]
      · rw [active]
    · intro isActive other
      rcases reloads with ⟨_, _, memory⟩ | ⟨inactive, _⟩
      · rw [memory, rewritten.content_in, shown_map (fun _ => assistant) (fun _ =>
          assistant.content) (fun _ _ => rfl) (fun _ => rfl), shown_loaded synced.distinct]
      · exact absurd isActive inactive
    · intro inactive
      rcases reloads with ⟨isActive, _⟩ | ⟨_, _, memory⟩
      · exact absurd isActive inactive
      · exact memory
  · have unstored : s.db.stored assistant.id = none := by
      rw [eq_none_iff_forall_ne_some]
      rintro ⟨home, content⟩ isStored
      obtain rfl := own _ isStored
      obtain ⟨message, isLoaded, same⟩ :=
        (loaded_iff_stored synced.distinct assistant.id).mpr ⟨content, isStored⟩
      exact unknown message isLoaded same
    obtain ⟨effect, conversationIDs, inserted⟩ := insert_effect synced known
      (by simpa using unstored) (by simp) tables reloads
    refine ⟨?_, inserted assistant.id assistant.content (by simp [shown]),
      conversationIDs⟩
    simpa using effect

theorem finalize_effect (synced : Synced s)
    (own : ∀ entry, s.db.stored messageID = some entry → entry.1 = conversationID)
    (done : s.finalizeAssistantStreamResult conversationID messageID completion = .ok next) :
    ∃ assistant : Message, s.db.stored messageID = some (conversationID, assistant.content) ∧
    Effect s next (· = messageID) [] ∧ next.db.stored messageID =
    some (conversationID, (Store.finalizedMessage assistant completion).content) ∧
    next.db.conversationIDs = s.db.conversationIDs := by
  obtain ⟨assistant, found, persisted⟩ := finalize_stream_ok done
  have isStored : assistant.id = messageID ∧
      s.db.stored messageID = some (conversationID, assistant.content) := by
    split_ifs at found with isActive
    · refine ⟨by simpa using find?_some found, ?_⟩
      rw [← content_in_iff, ← isActive, ← synced.memory]
      unfold shown
      rw [found]
      rfl
    obtain ⟨row, isRow, rfl⟩ := map_eq_some_iff.mp found
    have stored : s.db.stored messageID = some (row.conversationID, row.message.content) := by
      unfold stored
      rw [isRow]
      rfl
    obtain rfl := own _ stored
    exact ⟨by simpa using find?_some isRow, stored⟩
  obtain ⟨rfl, stored⟩ := isStored
  have sameID : (Store.finalizedMessage assistant completion).id = assistant.id := rfl
  rw [← sameID] at own ⊢
  exact ⟨assistant, stored, persist_effect synced own persisted⟩

theorem finalized_keeps_streamed (failed : completion.error.isSome)
    (nonblank : trimSpace assistant.content ≠ "") :
    (Store.finalizedMessage assistant completion).content = assistant.content := by
  obtain ⟨err, isError⟩ := isSome_iff_exists.mp failed
  have nonempty : assistant.content ≠ "" := by
    intro empty
    exact nonblank (by rw [empty, trim_space_empty])
  simp [Store.finalizedMessage, isError, nonblank, nonempty]

end

end RuneTerminal.Conversation
