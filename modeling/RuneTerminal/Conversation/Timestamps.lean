import RuneTerminal.Conversation.Loads
import RuneTerminal.Conversation.Streams

/-! A section stamps the conversation whose row it writes, with the time it reads or with the time
of the message that it stores last. -/

namespace RuneTerminal.Conversation

open Go.Strings List

def Database.HasTime (db : Database) (conversationID messageID : String) (time : Nat) : Prop :=
  ∃ row ∈ db.messages, row.conversationID = conversationID ∧ row.message.id = messageID ∧
    row.message.createdAt = time

def Remembers (s : Store) : Prop :=
  ∀ message ∈ s.messages, s.db.HasTime s.active.id message.id message.createdAt

/-- A section stamps its targets and no other conversation, and brings no other times of
messages than those of the messages it stores. -/
structure Stamps (s next : Store) (targets : List String) (stamp : Nat)
    (brought : List Message) : Prop where
  records : ∀ {conversationID after},
    next.db.loadConversationRecord conversationID = some after →
      (conversationID ∈ targets ∧ after.updatedAt = stamp) ∨
        (conversationID ∉ targets ∧ ∃ before,
          s.db.loadConversationRecord conversationID = some before ∧
            before.updatedAt = after.updatedAt)
  times : ∀ {conversationID messageID time},
    next.db.HasTime conversationID messageID time →
      s.db.HasTime conversationID messageID time ∨
        ∃ message ∈ brought, message.id = messageID ∧ message.createdAt = time
  remembers : Remembers s → Remembers next

variable {db : Database} {conversationID messageID : String} {cascade : Bool}
  {messages : List Message} {record : ConversationRecord}

namespace Database

variable {time : Nat} {home : String}

theorem has_time_rewrite {rewritten content reasoning provider model : String}
    {status : MessageStatus} :
    (db.updateConversationMessageContent rewritten content status reasoning provider model).HasTime
      conversationID messageID time ↔
    db.HasTime conversationID messageID time := by
  constructor
  · rintro ⟨row, mem, described⟩
    obtain ⟨before, isBefore, rfl⟩ := mem_map.mp mem
    refine ⟨before, isBefore, ?_⟩
    split_ifs at described
    · exact described
    · exact described
  · rintro ⟨row, mem, described⟩
    refine ⟨_, mem_map_of_mem mem, ?_⟩
    split_ifs
    · exact described
    · exact described

theorem has_time_insert :
    (db.insertConversationMessages home messages).HasTime conversationID messageID time ↔
    db.HasTime conversationID messageID time ∨ home = conversationID ∧
    ∃ message ∈ messages, message.id = messageID ∧ message.createdAt = time := by
  constructor
  · rintro ⟨row, mem, described⟩
    rcases mem_append.mp mem with old | new
    · exact .inl ⟨row, old, described⟩
    · obtain ⟨message, isMessage, rfl⟩ := mem_map.mp new
      exact .inr ⟨described.1, message, isMessage, described.2⟩
  · rintro (⟨row, mem, described⟩ | ⟨isHome, message, isMessage, described⟩)
    · exact ⟨row, mem_append_left _ mem, described⟩
    · exact ⟨⟨home, storedMessage message⟩,
        mem_append_right _ (mem_map_of_mem isMessage), isHome, described⟩

theorem has_time_delete {deleted : String}
    (kept : (db.deleteConversation cascade deleted).HasTime conversationID messageID time) :
    db.HasTime conversationID messageID time := by
  obtain ⟨row, mem, described⟩ := kept
  refine ⟨row, ?_, described⟩
  cases cascade with
  | false => exact mem
  | true => exact mem_of_mem_filter mem

theorem has_time_delete_other {deleted : String} (other : conversationID ≠ deleted)
    (stored : db.HasTime conversationID messageID time) :
    (db.deleteConversation cascade deleted).HasTime conversationID messageID time := by
  obtain ⟨row, mem, home, described⟩ := stored
  refine ⟨row, ?_, home, described⟩
  cases cascade with
  | false => exact mem
  | true =>
    apply mem_filter_of_mem mem
    simpa [home] using other

theorem has_time_of_loaded {message : Message}
    (loaded : message ∈ db.loadConversationMessages conversationID) :
    db.HasTime conversationID message.id message.createdAt := by
  obtain ⟨row, kept, rfl⟩ := mem_map.mp ((loaded_perm conversationID).mem_iff.mp loaded)
  obtain ⟨mem, home⟩ := mem_filter.mp kept
  exact ⟨row, mem, eq_of_beq home, rfl, rfl⟩

theorem has_time_of_load_by_id {message : Message}
    (loaded : db.loadMessageByID messageID = some message) :
    ∃ id, db.HasTime id messageID message.createdAt := by
  obtain ⟨row, found, rfl⟩ := Option.map_eq_some_iff.mp loaded
  refine ⟨row.conversationID, row, mem_of_find?_eq_some found, rfl, ?_, rfl⟩
  simpa using find?_some found

theorem HasTime.unique {other : Nat} (nodup : db.messageIDs.Nodup)
    (stored : db.HasTime conversationID messageID time) (again : db.HasTime home messageID other) :
    time = other := by
  obtain ⟨first, isFirst, _, sameID, rfl⟩ := stored
  obtain ⟨second, isSecond, _, rfl, rfl⟩ := again
  rw [inj_on_of_nodup_map nodup isFirst isSecond sameID]

variable {after : ConversationRecord}

theorem load_id (loaded : db.loadConversationRecord conversationID = some record) :
    record.id = conversationID :=
  (load_record_spec loaded).1

theorem loaded_after_update_record
    (loaded : (db.updateConversation record).loadConversationRecord conversationID = some after) :
    (conversationID = record.id ∧ after.updatedAt = record.updatedAt) ∨
    (conversationID ≠ record.id ∧ db.loadConversationRecord conversationID = some after) := by
  rw [load_record_update] at loaded
  obtain ⟨stored, found, rfl⟩ := Option.map_eq_some_iff.mp loaded
  rw [load_id found]
  by_cases same : conversationID = record.id
  · rw [if_pos same]
    exact .inl ⟨same, rfl⟩
  · rw [if_neg same]
    exact .inr ⟨same, found⟩

theorem loaded_after_insert_record
    (loaded : (db.insertConversation record).loadConversationRecord conversationID = some after) :
    db.loadConversationRecord conversationID = some after ∨
    (conversationID = record.id ∧ after = record) := by
  unfold loadConversationRecord insertConversation at loaded
  rw [find?_append] at loaded
  rcases Option.or_eq_some_iff.mp loaded with old | ⟨_, new⟩
  · exact .inl old
  · have same : after = record := mem_singleton.mp (mem_of_find?_eq_some new)
    have isID : after.id = conversationID := by simpa using find?_some new
    exact .inr ⟨same ▸ isID.symm, same⟩

theorem loaded_after_delete_record {cascade : Bool} {deleted : String}
    (loaded : (db.deleteConversation cascade deleted).loadConversationRecord conversationID =
      some after) :
    db.loadConversationRecord conversationID = some after := by
  unfold loadConversationRecord at loaded ⊢
  dsimp only [deleteConversation] at loaded
  rw [find?_filter] at loaded
  have isID : after.id = conversationID ∧ after.id ≠ deleted := by
    have found := find?_some loaded
    simp at found
    exact ⟨found.2, found.1⟩
  rw [← loaded]
  congr 1
  funext stored
  by_cases same : stored.id = conversationID
  · simp [same, isID.1 ▸ isID.2]
  · simp [same]

end Database

section

variable {s next : Store} {newID : String} {now stamp : Nat}

theorem Stamps.of_same_records
    (records : ∀ {id after},
      next.db.loadConversationRecord id = some after →
        s.db.loadConversationRecord id = some after)
    (times : ∀ {id messageID time},
      next.db.HasTime id messageID time →
        s.db.HasTime id messageID time)
    (remembers : Remembers s → Remembers next) : Stamps s next [] stamp [] where
  records loaded := .inr ⟨not_mem_nil, _, records loaded, rfl⟩
  times stored := .inl (times stored)
  remembers := remembers

theorem Reloads.remembers {record : ConversationRecord} (reloads : Reloads s next record messages)
    (loaded : Remembers s → s.active.id = record.id →
      ∀ message ∈ messages, next.db.HasTime record.id message.id message.createdAt)
    (kept : ∀ {id time}, s.db.HasTime s.active.id id time → next.db.HasTime s.active.id id time)
    (remembers : Remembers s) : Remembers next := by
  intro message mem
  rcases reloads with ⟨isActive, active, memory⟩ | ⟨_, active, memory⟩
  · rw [active]
    exact loaded remembers isActive message (memory ▸ mem)
  · rw [active]
    exact kept (remembers message (memory ▸ mem))

theorem modified_stamps (modified : Modified s next conversationID now) :
    Stamps s next [trimSpace conversationID] now [] := by
  obtain ⟨before, record, _, isID, ⟨sameID, _, _, isStamped⟩, tables, reloads⟩ := modified
  constructor
  · intro other after loaded
    rw [tables] at loaded
    rcases Database.loaded_after_update_record loaded with ⟨isTarget, updated⟩ | ⟨isOther, old⟩
    · left
      rw [sameID, isID] at isTarget
      exact ⟨mem_singleton.mpr isTarget, updated.trans isStamped⟩
    · right
      rw [sameID, isID] at isOther
      exact ⟨by simpa using isOther, after, old, rfl⟩
  · intro home messageID time stored
    rw [tables] at stored
    exact .inl stored
  apply reloads.remembers
  · intro _ _ message mem
    rw [tables]
    exact Database.has_time_of_loaded mem
  · intro messageID time stored
    rw [tables]
    exact stored

theorem not_mem_unused {other : String} (unused : newID ∉ db.conversationIDs)
    (loaded : db.loadConversationRecord other = some record) : other ∉ [newID] := by
  rw [mem_singleton]
  rintro rfl
  obtain ⟨sameID, held⟩ := load_record_spec loaded
  exact unused (sameID ▸ mem_row_ids held.mem)

theorem create_stamps (unused : newID ∉ s.db.conversationIDs) :
    Stamps s (s.createConversation newID now) [newID] now [] := by
  constructor
  · intro other after loaded
    rcases Database.loaded_after_insert_record loaded with old | ⟨isNew, rfl⟩
    · exact .inr ⟨not_mem_unused unused old, after, old, rfl⟩
    · exact .inl ⟨mem_singleton.mpr isNew, rfl⟩
  · intro home messageID time stored
    exact .inl stored
  · intro _ message mem
    cases mem

theorem activate_stamps (done : s.activateConversation conversationID = .ok next) :
    Stamps s next [] stamp [] := by
  obtain ⟨record, _, active, messages, tables⟩ := activate_ok done
  apply Stamps.of_same_records
  · intro other after loaded
    rw [tables] at loaded
    exact loaded
  · intro home messageID time stored
    rw [tables] at stored
    exact stored
  intro _ message mem
  rw [messages] at mem
  rw [active, tables]
  exact Database.has_time_of_loaded mem

section

variable {before : Database} {candidate : Option String}
  (done : Store.nextActive before candidate newID now = .ok (db, record, messages))
include done

theorem next_active_cases :
    (db = before ∧ messages = before.loadConversationMessages record.id) ∨
    (db = before.insertConversation (newConversationRecord newID now) ∧
      record = newConversationRecord newID now ∧ messages = []) := by
  unfold Store.nextActive at done
  split at done
  · split at done
    · cases done
    next loaded =>
      obtain ⟨sameID, _, rfl⟩ := load_state_spec loaded
      cases done
      exact .inl ⟨rfl, by rw [sameID]⟩
  · cases done
    exact .inr ⟨rfl, rfl, rfl⟩

theorem next_active_tables : (∀ {other after}, db.loadConversationRecord other = some after →
    before.loadConversationRecord other = some after ∨ (other = newID ∧ after.updatedAt = now)) ∧
    (∀ {home messageID time}, db.HasTime home messageID time ↔ before.HasTime home messageID time) ∧
    ∀ message ∈ messages, before.HasTime record.id message.id message.createdAt := by
  rcases next_active_cases done with ⟨rfl, rfl⟩ | ⟨rfl, rfl, rfl⟩
  · exact ⟨.inl, Iff.rfl, fun message mem => Database.has_time_of_loaded mem⟩
  refine ⟨?_, Iff.rfl, fun message mem => by cases mem⟩
  intro other after loaded
  refine (Database.loaded_after_insert_record loaded).imp_right ?_
  rintro ⟨isNew, rfl⟩
  exact ⟨isNew, rfl⟩

end

theorem delete_stamps (clean : ∀ other ∈ s.db.conversationIDs, CleanID other)
    (unused : newID ∉ s.db.conversationIDs)
    (done : s.deleteConversation cascade conversationID newID now = .ok next) :
    Stamps s next [newID] now [] := by
  unfold Store.deleteConversation at done
  dsimp only at done
  split at done
  · cases done
  split at done
  · cases done
  next deleted loadedDeleted =>
    obtain ⟨sameID, held⟩ := load_record_spec loadedDeleted
    split at done
    · split at done
      · cases done
      next db record messages taken =>
        obtain ⟨records, times, memory⟩ := next_active_tables taken
        have other : record.id ≠ trimSpace conversationID :=
          (next_active_ok taken).not_deleted clean unused held sameID
        cases done
        constructor
        · intro loadedID after loaded
          rcases records (@Database.loaded_after_delete_record _ _ _ cascade _ loaded) with
            old | new
          · exact .inr ⟨not_mem_unused unused old, after, old, rfl⟩
          · exact .inl ⟨mem_singleton.mpr new.1, new.2⟩
        · intro home messageID time stored
          exact .inl (times.mp (Database.has_time_delete stored))
        · intro _ message mem
          exact Database.has_time_delete_other other (times.mpr (memory message mem))
    next other =>
      cases done
      constructor
      · intro loadedID after loaded
        have old := @Database.loaded_after_delete_record _ _ _ cascade _ loaded
        exact .inr ⟨not_mem_unused unused old, after, old, rfl⟩
      · intro home messageID time stored
        exact .inl (Database.has_time_delete stored)
      · intro remembers message mem
        exact Database.has_time_delete_other other (remembers message mem)

theorem archive_stamps (unused : newID ∉ s.db.conversationIDs)
    (done : s.archiveConversation conversationID newID now = .ok next) :
    next = s ∨ Stamps s next [trimSpace conversationID, newID] now [] := by
  unfold Store.archiveConversation at done
  dsimp only at done
  split at done
  · cases done
  split at done
  · cases done
  next record loadedRecord =>
    obtain ⟨sameID, held⟩ := load_record_spec loadedRecord
    split at done
    · left
      exact (Except.ok.inj done).symm
    -- the row of the archived conversation, whatever takes over
    have archived {other : String} {after : ConversationRecord}
        (loaded : (s.db.updateConversation
          { record with archivedAt := some now, updatedAt := now }).loadConversationRecord
            other = some after) :
        (other ∈ [trimSpace conversationID, newID] ∧ after.updatedAt = now) ∨
          (other ∉ [trimSpace conversationID, newID] ∧ ∃ before,
            s.db.loadConversationRecord other = some before ∧
              before.updatedAt = after.updatedAt) := by
      rcases Database.loaded_after_update_record loaded with ⟨isTarget, updated⟩ |
          ⟨isOther, old⟩
      · exact .inl ⟨by simp [isTarget, sameID], updated⟩
      · have notNew := not_mem_unused unused old
        refine .inr ⟨?_, after, old, rfl⟩
        simpa using ⟨sameID ▸ isOther, mem_singleton.not.mp notNew⟩
    right
    split at done
    · cases done
      exact ⟨archived, .inl, id⟩
    split at done
    · cases done
    next db follower messages taken =>
      obtain ⟨records, times, memory⟩ := next_active_tables taken
      cases done
      constructor
      · intro other after loaded
        rcases records loaded with old | ⟨rfl, stamped⟩
        · exact archived old
        · exact .inl ⟨by simp, stamped⟩
      · intro home messageID time stored
        exact .inl (times.mp stored)
      · intro _ message mem
        exact times.mpr (memory message mem)

theorem append_messages_stamps {summarize : String → String} {last : Message}
    (isLast : messages.getLast? = some last)
    (done : s.appendMessagesForConversation summarize conversationID messages = .ok next) :
    Stamps s next [trimSpace conversationID] last.createdAt messages := by
  obtain ⟨record, ⟨before, _, _, _, _, updatedAt⟩, sameID, tables, reloads⟩ :=
    append_messages_row done
  have stamped : record.updatedAt = last.createdAt := by
    rw [updatedAt, isLast]
    rfl
  constructor
  · intro other after loaded
    rw [tables] at loaded
    rcases Database.loaded_after_update_record loaded with ⟨isTarget, updated⟩ | ⟨isOther, old⟩
    · exact .inl ⟨by simp [isTarget, sameID], updated.trans stamped⟩
    · exact .inr ⟨by simpa [sameID] using isOther, after, old, rfl⟩
  · intro home messageID time stored
    rw [tables] at stored
    exact (Database.has_time_insert.mp stored).imp_right And.right
  apply reloads.remembers
  · intro _ _ message mem
    rw [tables]
    apply Database.has_time_insert.mpr
    rcases mem_append.mp mem with old | new
    · exact .inl (Database.has_time_of_loaded old)
    · exact .inr ⟨rfl, message, new, rfl, rfl⟩
  · intro messageID time stored
    rw [tables]
    exact Database.has_time_insert.mpr (.inl stored)

theorem append_delta_stamps {delta : String}
    (done : s.appendAssistantDelta conversationID messageID delta now = .ok next) :
    Stamps s next [] stamp [] := by
  unfold Store.appendAssistantDelta at done
  dsimp only at done
  split at done
  · cases done
  cases done
  apply Stamps.of_same_records
  · exact id
  · exact Database.has_time_rewrite.mp
  intro remembers message mem
  apply Database.has_time_rewrite.mpr
  split_ifs at mem
  · obtain ⟨before, isBefore, rfl⟩ := mem_map.mp mem
    split_ifs
    · exact remembers before isBefore
    · exact remembers before isBefore
  · exact remembers message mem

theorem persist_finalization_stamps {assistant : Message} {nextSession : ProviderSessionState}
    (known : ∀ home time, s.db.HasTime home assistant.id time → time = assistant.createdAt)
    (done : s.persistAssistantFinalization conversationID assistant nextSession = .ok next) :
    Stamps s next [conversationID] assistant.createdAt [assistant] := by
  obtain ⟨record, before, _, sameID, _, _, _, stamped, outcome⟩ := finalization_ok done
  have records {db : Database} (tables : next.db = db.updateConversation record)
      (same : db.conversations = s.db.conversations) {other : String}
      {after : ConversationRecord}
      (loaded : next.db.loadConversationRecord other = some after) :
      (other ∈ [conversationID] ∧ after.updatedAt = assistant.createdAt) ∨
        (other ∉ [conversationID] ∧ ∃ before, s.db.loadConversationRecord other = some before ∧
          before.updatedAt = after.updatedAt) := by
    rw [tables] at loaded
    rcases Database.loaded_after_update_record loaded with ⟨isTarget, updated⟩ | ⟨isOther, old⟩
    · exact .inl ⟨by simp [isTarget, sameID], updated.trans stamped⟩
    have unchanged : s.db.loadConversationRecord other = some after := by
      unfold Database.loadConversationRecord at old ⊢
      rw [← same]
      exact old
    exact .inr ⟨by simpa [sameID] using isOther, after, unchanged, rfl⟩
  rcases outcome with ⟨_, tables, reloads⟩ | ⟨_, tables, reloads⟩
  · refine ⟨records tables rfl, ?_, ?_⟩
    · intro home messageID time stored
      rw [tables] at stored
      exact .inl (Database.has_time_rewrite.mp stored)
    apply reloads.remembers
    · intro _ _ written mem
      rw [tables]
      apply Database.has_time_rewrite.mpr
      obtain ⟨stored, isStored, rfl⟩ := mem_map.mp mem
      rw [sameID]
      split_ifs with same
      · have here := Database.has_time_of_loaded isStored
        rw [← same, ← known _ _ (same ▸ here)]
        exact here
      · exact Database.has_time_of_loaded isStored
    · intro messageID time stored
      rw [tables]
      exact Database.has_time_rewrite.mpr stored
  · refine ⟨records tables rfl, ?_, ?_⟩
    · intro home messageID time stored
      rw [tables] at stored
      exact (Database.has_time_insert.mp stored).imp_right And.right
    apply reloads.remembers
    · intro _ _ written mem
      rw [tables]
      apply Database.has_time_insert.mpr
      rcases mem_append.mp mem with old | new
      · rw [sameID]
        exact .inl (Database.has_time_of_loaded old)
      · exact .inr ⟨sameID.symm, written, new, rfl, rfl⟩
    · intro messageID time stored
      rw [tables]
      exact Database.has_time_insert.mpr (.inl stored)

theorem finalize_stamps {completion : Completion} (nodup : s.db.messageIDs.Nodup)
    (remembers : Remembers s)
    (done : s.finalizeAssistantStreamResult conversationID messageID completion = .ok next) :
    ∃ assistant home, assistant.id = messageID ∧ s.db.HasTime home messageID assistant.createdAt ∧
    Stamps s next [conversationID] assistant.createdAt [assistant] := by
  obtain ⟨assistant, isAssistant, persisted⟩ := finalize_stream_ok done
  have isStored : assistant.id = messageID ∧
      ∃ home, s.db.HasTime home messageID assistant.createdAt := by
    split at isAssistant
    · have sameID : assistant.id = messageID := by simpa using find?_some isAssistant
      have member := mem_of_find?_eq_some isAssistant
      exact ⟨sameID, s.active.id, sameID ▸ remembers assistant member⟩
    obtain ⟨home, row, member, isHome, sameID, sameTime⟩ :=
      Database.has_time_of_load_by_id isAssistant
    obtain ⟨found, isFound, rfl⟩ := Option.map_eq_some_iff.mp isAssistant
    refine ⟨?_, home, row, member, isHome, sameID, sameTime⟩
    simpa using find?_some isFound
  obtain ⟨sameID, home, stored⟩ := isStored
  refine ⟨Store.finalizedMessage assistant completion, home, sameID, stored, ?_⟩
  apply persist_finalization_stamps _ persisted
  intro other time again
  change s.db.HasTime other assistant.id time at again
  rw [sameID] at again
  exact again.unique nodup stored

end

end RuneTerminal.Conversation
