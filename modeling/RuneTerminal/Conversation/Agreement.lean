import RuneTerminal.Conversation.Loads
import RuneTerminal.Conversation.Streams

/-! A section that succeeds writes the active conversation to the tables and to memory. The two are
the same when the messages it brings are stored as given and come last. -/

namespace RuneTerminal.Conversation

open Go.Strings Kit List Database Option

/-- The conversation in memory is what loading it from the tables gives. -/
def Agrees (s : Store) : Prop :=
  s.db.loadConversationState s.active.id = some (s.active, s.messages)

instance (s : Store) : Decidable (Agrees s) :=
  inferInstanceAs (Decidable (_ = _))

section

variable {s next : Store} {conversationID newID messageID : String} {db : Database} {now : Nat}
  {record : ConversationRecord} {messages : List Message}

theorem agrees_iff :
    Agrees s ↔ s.db.Holds s.active ∧ s.messages = s.db.loadConversationMessages s.active.id := by
  unfold Agrees loadConversationState Database.Holds
  rw [map_eq_some_iff]
  constructor
  · rintro ⟨record, loaded, same⟩
    obtain ⟨rfl, memory⟩ := Prod.mk.inj same
    exact ⟨loaded, memory.symm⟩
  · rintro ⟨held, memory⟩
    exact ⟨s.active, held, by rw [memory]⟩

theorem Agrees.reload {db : Database} {before record : ConversationRecord} {messages : List Message}
    (agrees : Agrees s) (held : s.db.Holds before) (sameID : record.id = before.id)
    (sameTime : record.createdAt = before.createdAt)
    (tables : next.db = db.updateConversation record)
    (conversations : db.conversations = s.db.conversations)
    (reloads : Reloads s next record messages)
    (own : s.active.id = record.id → messages = db.loadConversationMessages record.id)
    (others : s.active.id ≠ record.id →
      db.loadConversationMessages s.active.id = s.db.loadConversationMessages s.active.id) :
    Agrees next := by
  have same : ∀ other, s.db.Holds other → db.Holds other := by
    intro other isHeld
    unfold Database.Holds loadConversationRecord
    rw [conversations]
    exact isHeld
  obtain ⟨activeHeld, memory⟩ := agrees_iff.mp agrees
  rw [agrees_iff, tables]
  rcases reloads with ⟨isActive, active, remembered⟩ | ⟨ne, active, remembered⟩
  · rw [active, remembered]
    exact ⟨(same before held).updated sameID sameTime, own isActive⟩
  · rw [active, remembered, memory]
    exact ⟨(same s.active activeHeld).update_other ne, (others ne).symm⟩

theorem modified_agrees (agrees : Agrees s) (modified : Modified s next conversationID now) :
    Agrees next := by
  obtain ⟨before, record, held, _, ⟨sameID, _, sameTime, _⟩, tables, reloads⟩ := modified
  apply agrees.reload held sameID sameTime tables rfl reloads
  · exact fun _ => rfl
  · exact fun _ => rfl

theorem create_conversation_agrees (synced : Synced s) (unused : Unused s.db newID) :
    Agrees (s.createConversation newID now) := by
  obtain ⟨held, loaded⟩ := new_conversation_loads synced.distinct unused now
  rw [agrees_iff]
  exact ⟨held, loaded.symm⟩

theorem activate_conversation_agrees (done : s.activateConversation conversationID = .ok next) :
    Agrees next := by
  obtain ⟨record, held, active, memory, tables⟩ := activate_ok done
  rw [agrees_iff, active, memory, tables]
  exact ⟨held, rfl⟩

theorem TakesOver.loads {before : Database} {candidate : Option String}
    (taken : TakesOver db before candidate record messages newID) (nodup : before.messageIDs.Nodup)
    (unused : Unused before newID) :
    db.Holds record ∧ messages = db.loadConversationMessages record.id := by
  rcases taken with ⟨rfl, _, held, memory⟩ | ⟨now, rfl, rfl, rfl⟩
  · exact ⟨held, memory⟩
  · obtain ⟨held, loaded⟩ := new_conversation_loads nodup unused now
    exact ⟨held, loaded.symm⟩

theorem delete_conversation_agrees {cascade : Bool} (agrees : Agrees s) (synced : Synced s)
    (clean : ∀ other ∈ s.db.conversationIDs, CleanID other) (unused : Unused s.db newID)
    (done : s.deleteConversation cascade conversationID newID now = .ok next) : Agrees next := by
  obtain ⟨⟨deleted, isStored, sameID⟩, outcome⟩ := delete_conversation_ok done
  obtain ⟨activeHeld, memory⟩ := agrees_iff.mp agrees
  rw [agrees_iff]
  rcases outcome with ⟨ne, rfl⟩ | ⟨db, record, messages, taken, tables, active, remembered⟩
  · exact ⟨activeHeld.kept_by_delete cascade ne,
      memory.trans (loaded_after_delete cascade ne).symm⟩
  have other := taken.not_deleted clean unused.1 isStored sameID
  obtain ⟨held, loaded⟩ := taken.loads synced.distinct unused
  rw [tables, active, remembered]
  exact ⟨held.kept_by_delete cascade other,
    loaded.trans (loaded_after_delete cascade other).symm⟩

theorem archive_conversation_agrees (agrees : Agrees s) (synced : Synced s)
    (unused : Unused s.db newID)
    (done : s.archiveConversation conversationID newID now = .ok next) : Agrees next := by
  obtain ⟨activeHeld, memory⟩ := agrees_iff.mp agrees
  rcases archive_ok done with rfl | ⟨record, held, _, outcome⟩
  · exact agrees
  rw [agrees_iff]
  rcases outcome with ⟨ne, rfl⟩ | ⟨db, follower, messages, taken, tables, active, loaded⟩
  · exact ⟨activeHeld.update_other ne, memory⟩
  have stillUnused : Unused (s.db.updateConversation { record with
      archivedAt := some now, updatedAt := now }) newID :=
    ⟨by rw [ids_update]; exact unused.1, unused.2⟩
  rw [tables, active, loaded]
  exact taken.loads synced.distinct stillUnused

def StoredAsGiven (message : Message) : Prop :=
  Database.storedMessage message = message

instance (message : Message) : Decidable (StoredAsGiven message) :=
  inferInstanceAs (Decidable (_ = _))

theorem append_messages_agrees {summarize : String → String} {messages : List Message}
    (agrees : Agrees s) (synced : Synced s)
    (new : ∀ message ∈ messages, s.db.stored message.id = none)
    (nodup : (messages.map Message.id).Nodup)
    (fits : s.active.id = trimSpace conversationID →
      (∀ message ∈ messages, StoredAsGiven message) ∧ InOrder (s.messages ++ messages))
    (done : s.appendMessagesForConversation summarize conversationID messages = .ok next) :
    Agrees next := by
  obtain ⟨record, ⟨before, held, sameID, _, sameTime⟩, isConversation, tables, reloads⟩ :=
    append_messages_ok done
  apply agrees.reload held sameID sameTime tables rfl reloads
  · intro isActive
    obtain ⟨asGiven, inOrder⟩ := fits (isActive.trans isConversation)
    rw [(agrees_iff.mp agrees).2, isActive] at inOrder
    apply (loaded_after_insert asGiven _ inOrder).symm
    rw [map_append, nodup_append]
    refine ⟨loaded_distinct synced.distinct _, nodup, ?_⟩
    rintro messageID isLoaded other isNew rfl
    obtain ⟨loaded, mem, sameMessage⟩ := mem_map.mp isLoaded
    obtain ⟨message, isMember, rfl⟩ := mem_map.mp isNew
    have stored := stored_of_loaded synced.distinct mem
    rw [sameMessage, new message isMember] at stored
    cases stored
  · exact loaded_after_insert_other messages

theorem absent_from_active (synced : Synced s)
    (own : ∀ entry, s.db.stored messageID = some entry → entry.1 = conversationID)
    (inactive : s.active.id ≠ conversationID) :
    ∀ message ∈ s.db.loadConversationMessages s.active.id, message.id ≠ messageID := by
  rintro message loaded rfl
  exact inactive (own _ (stored_of_loaded synced.distinct loaded))

theorem persist_new_agrees {assistant : Message} {nextSession : ProviderSessionState}
    (agrees : Agrees s) (synced : Synced s) (new : s.db.stored assistant.id = none)
    (fits : s.active.id = conversationID →
      StoredAsGiven assistant ∧ InOrder (s.messages ++ [assistant]))
    (done : s.persistAssistantFinalization conversationID assistant nextSession = .ok next) :
    Agrees next := by
  obtain ⟨record, before, held, rfl, sameID, _, sameTime, _, outcome⟩ := finalization_ok done
  rcases outcome with ⟨⟨message, loaded, same⟩, _⟩ | ⟨unknown, tables, reloads⟩
  · have stored := stored_of_loaded synced.distinct loaded
    rw [same, new] at stored
    cases stored
  apply agrees.reload held sameID.symm sameTime tables rfl reloads
  · intro isActive
    obtain ⟨asGiven, inOrder⟩ := fits isActive
    rw [(agrees_iff.mp agrees).2, isActive] at inOrder
    have given : ∀ message ∈ [assistant], storedMessage message = message := by
      intro message mem
      rw [mem_singleton.mp mem]
      exact asGiven
    apply (loaded_after_insert given _ inOrder).symm
    rw [map_append, nodup_append]
    refine ⟨loaded_distinct synced.distinct _, nodup_singleton _, ?_⟩
    rintro messageID isLoaded other isNew rfl
    obtain ⟨message, mem, sameMessage⟩ := mem_map.mp isLoaded
    exact unknown message mem (sameMessage.trans (mem_singleton.mp isNew))
  · exact loaded_after_insert_other [assistant]

theorem reasoning_trimmed (completion : Completion) :
    trimSpace (reasoningFromResult completion) = reasoningFromResult completion := by
  have labelled : ∀ label text, CleanID label → trimSpace text ≠ "" →
      CleanID (label ++ " " ++ trimSpace text) :=
    fun label text clean nonblank => clean_id_between clean " " (clean_id_trim nonblank)
  unfold reasoningFromResult
  dsimp only
  split
  · exact trim_space_twice _
  split
  · rfl
  by_cases kind : trimSpace completion.info.kind = ""
  · by_cases model : trimSpace completion.info.model = ""
    · rw [if_neg (not_not.mpr kind), if_neg (not_not.mpr model)]
      rfl
    · rw [if_neg (not_not.mpr kind), if_pos model]
      exact (labelled "model:" completion.info.model (by decide) model).1
  by_cases model : trimSpace completion.info.model = ""
  · rw [if_pos kind, if_neg (not_not.mpr model)]
    exact (labelled "provider:" completion.info.kind (by decide) kind).1
  · rw [if_pos kind, if_pos model]
    exact (clean_id_between (labelled "provider:" completion.info.kind (by decide) kind) ", "
      (labelled "model:" completion.info.model (by decide) model)).1

/-- What a provider tells about itself, without white space around it. -/
def TrimmedInfo (info : ProviderInfo) : Prop :=
  trimSpace info.kind = info.kind ∧ trimSpace info.model = info.model

instance (info : ProviderInfo) : Decidable (TrimmedInfo info) :=
  inferInstanceAs (Decidable (_ ∧ _))

theorem finalize_agrees {completion : Completion} (agrees : Agrees s) (synced : Synced s)
    (own : ∀ entry, s.db.stored messageID = some entry → entry.1 = conversationID)
    (fits : s.active.id = conversationID → TrimmedInfo completion.info)
    (done : s.finalizeAssistantStreamResult conversationID messageID completion = .ok next) :
    Agrees next := by
  have memory := (agrees_iff.mp agrees).2
  obtain ⟨assistant, found, persisted⟩ := finalize_stream_ok done
  have same : (Store.finalizedMessage assistant completion).id = messageID := by
    change assistant.id = messageID
    split_ifs at found
    · simpa using find?_some found
    · obtain ⟨row, isRow, rfl⟩ := map_eq_some_iff.mp found
      simpa using find?_some isRow
  have remembered : s.active.id = conversationID →
      assistant ∈ s.db.loadConversationMessages conversationID := by
    rintro rfl
    rw [if_pos rfl] at found
    exact memory ▸ mem_of_find?_eq_some found
  obtain ⟨record, before, held, rfl, sameID, _, sameTime, _, outcome⟩ :=
    finalization_ok persisted
  rcases outcome with ⟨_, tables, reloads⟩ | ⟨unknown, tables, reloads⟩
  · apply agrees.reload held sameID.symm sameTime tables rfl reloads
    · intro isActive
      rw [loaded_after_update]
      apply map_congr_left
      intro message loaded
      by_cases isMessage : message.id = (Store.finalizedMessage assistant completion).id
      · -- Memory and tables differ in the written columns only, and these are trimmed.
        obtain rfl : message = assistant :=
          inj_on_of_nodup_map (loaded_distinct synced.distinct _) loaded
            (remembered isActive) isMessage
        obtain ⟨kind, model⟩ := fits isActive
        rw [if_pos isMessage, rewritten, if_pos isMessage]
        simp only [Store.finalizedMessage, kind, model, reasoning_trimmed]
      · rw [if_neg isMessage, rewritten, if_neg isMessage]
    · intro inactive
      exact loaded_after_update_other
        (absent_from_active synced (same ▸ own) inactive)
  · apply agrees.reload held sameID.symm sameTime tables rfl reloads
    · intro isActive
      exact absurd rfl (unknown assistant (remembered isActive))
    · exact loaded_after_insert_other _

/-- The columns that a delta writes besides the content, as the delta writes them. -/
def Bare (message : Message) : Prop :=
  message.status = .streaming ∧ message.reasoning = "" ∧ message.provider = "" ∧
    message.model = ""

instance (message : Message) : Decidable (Bare message) :=
  inferInstanceAs (Decidable (_ ∧ _))

theorem append_delta_agrees {messageID delta : String} {now : Nat} (agrees : Agrees s)
    (synced : Synced s) (nonempty : delta ≠ "")
    (own : ∀ entry, s.db.stored messageID = some entry → entry.1 = conversationID)
    (fits : s.active.id = conversationID →
      ∀ message ∈ s.messages, message.id = messageID → Bare message)
    (done : s.appendAssistantDelta conversationID messageID delta now = .ok next) :
    Agrees next := by
  obtain ⟨activeHeld, memory⟩ := agrees_iff.mp agrees
  unfold Store.appendAssistantDelta at done
  dsimp only at done
  split at done
  · cases done
  next content written =>
    cases done
    rw [agrees_iff]
    refine ⟨activeHeld, ?_⟩
    by_cases isActive : s.active.id = conversationID
    · rw [if_pos isActive] at written ⊢
      rw [loaded_after_update, ← memory]
      apply map_congr_left
      intro message mem
      by_cases isMessage : message.id = messageID
      · have found : s.messages.find? (·.id == messageID) = some message := by
          rw [← isMessage]
          apply find_by_key Message.id _ mem
          rw [memory]
          exact loaded_distinct synced.distinct _
        have extended : message.content ++ delta ≠ "" := by
          intro blank
          exact nonempty (String.append_eq_empty_iff.mp blank).2
        rw [found] at written
        simp only [map_some, getD_some, extended, if_false,
          some.injEq] at written
        obtain ⟨status, reasoning, provider, model⟩ := fits isActive message mem isMessage
        rw [if_pos isMessage, rewritten, if_pos isMessage, ← written]
        simp only [trim_space_empty, status, reasoning, provider, model]
      · rw [if_neg isMessage, rewritten, if_neg isMessage]
    · rw [if_neg isActive]
      rw [loaded_after_update_other (absent_from_active synced own isActive)]
      exact memory

end

end RuneTerminal.Conversation
