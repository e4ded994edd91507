import RuneTerminal.AgentConversations.Panel

/-! The pending flag lets one change of the conversations be under way at a time, and none beside a
submission. Only the latest submission has the nonce of the panel. -/

namespace RuneTerminal.AgentConversations

open Kit Table Option

inductive Kind where
  | operation
  | listing
  | connecting (nonce : Nat)
  | streaming (nonce : Nat)
  | finishing (nonce : Nat)
  deriving DecidableEq

def Kind.nonce : Kind → Option Nat
  | .operation => none
  | .listing => none
  | .connecting nonce => some nonce
  | .streaming nonce => some nonce
  | .finishing nonce => some nonce

def Call.kind : Call → Kind
  | .switching _ _ _ => .operation
  | .creating _ _ => .operation
  | .refreshing _ _ => .operation
  | .retitling _ _ _ => .operation
  | .mutating _ _ _ _ _ => .operation
  | .mutated _ _ _ _ _ => .operation
  | .listing _ _ => .listing
  | .connecting nonce => .connecting nonce
  | .streaming nonce _ => .streaming nonce
  | .finishing nonce _ _ _ => .finishing nonce

structure Control where
  isSubmitting : Bool
  isConversationPending : Bool
  activeStream : Option Nat
  activeSubmissionAbort : Option Nat
  submissionNonce : Nat

def Panel.control (panel : Panel) : Control where
  isSubmitting := panel.isSubmitting
  isConversationPending := panel.isConversationPending
  activeStream := panel.activeStream
  activeSubmissionAbort := panel.activeSubmissionAbort
  submissionNonce := panel.submissionNonce

def System.kinds (s : System) : Table Nat Kind := fun call => (s.calls call).map Call.kind

/-- The calls that are under way agree with the flags and the nonce of the panel. -/
structure Ordered (control : Control) (kinds : Table Nat Kind) (started : Nat) : Prop where
  started : ∀ {call kind}, kinds call = some kind → call < started
  single : ∀ {call other}, kinds call = some .operation → kinds other = some .operation →
    other = call
  pending : ∀ {call}, kinds call = some .operation →
    control.isConversationPending = true ∧ control.isSubmitting = false
  bounded : ∀ {call kind nonce}, kinds call = some kind → kind.nonce = some nonce →
    nonce ≤ control.submissionNonce
  live : ∀ {call kind}, kinds call = some kind → kind.nonce = some control.submissionNonce →
    control.isSubmitting = true ∧ control.activeSubmissionAbort = some call
  connected : ∀ {call}, kinds call = some (.streaming control.submissionNonce) ∨
    kinds call = some (.finishing control.submissionNonce) → control.activeStream = some call
  latest : ∀ {call nonce}, kinds call = some (.finishing nonce) → nonce = control.submissionNonce

section

variable {control next : Control} {kinds : Table Nat Kind} {started call : Nat} {kind : Kind}

section

variable (ordered : Ordered control kinds started)
include ordered

theorem Ordered.no_operation (free : control.isConversationPending = false) (call : Nat) :
    kinds call ≠ some .operation := by
  intro isCall
  rw [(ordered.pending isCall).1] at free
  cases free

theorem Ordered.none_live (free : control.isSubmitting = false) (isCall : kinds call = some kind) :
    kind.nonce ≠ some control.submissionNonce := by
  intro isLive
  rw [(ordered.live isCall isLive).1] at free
  cases free

theorem Ordered.none_finishing (free : control.isSubmitting = false) (call nonce : Nat) :
    kinds call ≠ some (.finishing nonce) := by
  intro isCall
  exact ordered.none_live free isCall (congrArg some (ordered.latest isCall))

theorem Ordered.beside_operation
    (isCall : kinds call = some .operation) {other : Nat} (ne : other ≠ call) :
    kinds other ≠ some .operation ∧ ∀ nonce, kinds other ≠ some (.finishing nonce) :=
  ⟨fun isOther => ne (ordered.single isCall isOther),
    ordered.none_finishing (ordered.pending isCall).2 other⟩

theorem Ordered.starts {fresh : Kind} (isCall : kinds.insert started fresh call = some kind) :
    call < started + 1 := by
  rcases insert_eq_some isCall with ⟨rfl, _⟩ | ⟨_, isCall⟩
  · exact Nat.lt_succ_self call
  · exact Nat.lt_succ_of_lt (ordered.started isCall)

theorem Ordered.start_operation (notSubmitting : control.isSubmitting = false)
    (notPending : control.isConversationPending = false)
    (newer : control.submissionNonce ≤ next.submissionNonce)
    (pending : next.isConversationPending = true ∧ next.isSubmitting = false) :
    Ordered next (kinds.insert started .operation) (started + 1) := by
  have noneLive : ∀ {call kind}, kinds call = some kind →
      kind.nonce ≠ some next.submissionNonce := by
    intro call kind isCall isLive
    have same := Nat.le_antisymm newer (ordered.bounded isCall isLive)
    exact ordered.none_live notSubmitting isCall (same ▸ isLive)
  constructor
  · exact ordered.starts
  · intro call other isCall isOther
    rcases insert_eq_some isCall with ⟨rfl, _⟩ | ⟨_, isCall⟩
    · rcases insert_eq_some isOther with ⟨rfl, _⟩ | ⟨_, isOther⟩
      · rfl
      · exact absurd isOther (ordered.no_operation notPending other)
    · exact absurd isCall (ordered.no_operation notPending call)
  · intro call isCall
    exact pending
  · intro call kind nonce isCall isNonce
    rcases insert_eq_some isCall with ⟨_, rfl⟩ | ⟨_, isCall⟩
    · cases isNonce
    · exact Nat.le_trans (ordered.bounded isCall isNonce) newer
  · intro call kind isCall isLive
    rcases insert_eq_some isCall with ⟨_, rfl⟩ | ⟨_, isCall⟩
    · cases isLive
    · exact absurd isLive (noneLive isCall)
  · rintro call (isCall | isCall)
    · exact absurd rfl (noneLive (old_of_insert isCall nofun))
    · exact absurd rfl (noneLive (old_of_insert isCall nofun))
  · intro call nonce isCall
    have isOld := old_of_insert isCall nofun
    exact absurd isOld (ordered.none_finishing notSubmitting call nonce)

theorem Ordered.start_listing : Ordered control (kinds.insert started .listing) (started + 1) := by
  constructor
  · exact ordered.starts
  · intro call other isCall isOther
    have isOld := old_of_insert isCall nofun
    exact ordered.single isOld (old_of_insert isOther nofun)
  · intro call isCall
    exact ordered.pending (old_of_insert isCall nofun)
  · intro call kind nonce isCall isNonce
    rcases insert_eq_some isCall with ⟨_, rfl⟩ | ⟨_, isCall⟩
    · cases isNonce
    · exact ordered.bounded isCall isNonce
  · intro call kind isCall isLive
    rcases insert_eq_some isCall with ⟨_, rfl⟩ | ⟨_, isCall⟩
    · cases isLive
    · exact ordered.live isCall isLive
  · rintro call (isCall | isCall)
    · exact ordered.connected (.inl (old_of_insert isCall nofun))
    · exact ordered.connected (.inr (old_of_insert isCall nofun))
  · intro call nonce isCall
    exact ordered.latest (old_of_insert isCall nofun)

theorem Ordered.start_submission (notSubmitting : control.isSubmitting = false)
    (notPending : control.isConversationPending = false)
    (newer : next.submissionNonce = control.submissionNonce + 1)
    (submitting : next.isSubmitting = true) (abort : next.activeSubmissionAbort = some started) :
    Ordered next (kinds.insert started (.connecting next.submissionNonce)) (started + 1) := by
  have older : ∀ {call kind nonce}, kinds call = some kind → kind.nonce = some nonce →
      nonce < next.submissionNonce := by
    intro call kind nonce isCall isNonce
    have := ordered.bounded isCall isNonce
    omega
  constructor
  · exact ordered.starts
  · intro call other isCall isOther
    exact absurd (old_of_insert isCall nofun) (ordered.no_operation notPending call)
  · intro call isCall
    exact absurd (old_of_insert isCall nofun) (ordered.no_operation notPending call)
  · intro call kind nonce isCall isNonce
    rcases insert_eq_some isCall with ⟨_, rfl⟩ | ⟨_, isCall⟩
    · exact Nat.le_of_eq (some.inj isNonce).symm
    · exact Nat.le_of_lt (older isCall isNonce)
  · intro call kind isCall isLive
    rcases insert_eq_some isCall with ⟨rfl, _⟩ | ⟨_, isCall⟩
    · exact ⟨submitting, abort⟩
    · exact absurd (older isCall isLive) (Nat.lt_irrefl _)
  · rintro call (isCall | isCall)
    · exact absurd (older (old_of_insert isCall nofun) rfl) (Nat.lt_irrefl _)
    · exact absurd (older (old_of_insert isCall nofun) rfl) (Nat.lt_irrefl _)
  · intro call nonce isCall
    have isOld := old_of_insert isCall nofun
    exact absurd isOld (ordered.none_finishing notSubmitting call nonce)

end

def Remains (kinds after : Table Nat Kind) (call : Nat) : Prop :=
  ∀ other kind, after other = some kind →
    kind = .listing ∧ kinds other ≠ none ∨ other ≠ call ∧ kinds other = some kind

theorem remains_erase : Remains kinds (kinds.erase call) call := by
  intro other kind isOther
  exact .inr (erase_eq_some isOther)

theorem remains_listing (isCall : kinds call = some kind) :
    Remains kinds (kinds.insert call .listing) call := by
  intro other kind isOther
  rcases insert_eq_some isOther with ⟨rfl, rfl⟩ | different
  · refine .inl ⟨rfl, ?_⟩
    rw [isCall]
    intro absent
    cases absent
  · exact .inr different

section

variable (ordered : Ordered control kinds started)
include ordered

theorem Ordered.finish {after : Table Nat Kind} {kind : Kind} (isCall : kinds call = some kind)
    (remains : Remains kinds after call) (same : next.submissionNonce = control.submissionNonce)
    (pending : next.isConversationPending = control.isConversationPending ∨ kind = .operation)
    (submitting : next.isSubmitting = control.isSubmitting ∧
        next.activeSubmissionAbort = control.activeSubmissionAbort ∧
        next.activeStream = control.activeStream ∨
      next.isSubmitting = false ∧ kind.nonce = some control.submissionNonce) :
    Ordered next after started := by
  have left : ∀ {other kind}, after other = some kind → kind ≠ .listing →
      other ≠ call ∧ kinds other = some kind := by
    intro other kind isOther notListing
    exact (remains other kind isOther).resolve_left fun isListing => notListing isListing.1
  -- A call that is left is live only if the one that ends is not.
  have others : ∀ {other kind}, after other = some kind →
      kind.nonce = some control.submissionNonce →
      (other ≠ call ∧ kinds other = some kind) ∧ next.isSubmitting = control.isSubmitting ∧
        next.activeSubmissionAbort = control.activeSubmissionAbort ∧
          next.activeStream = control.activeStream := by
    intro other otherKind isOther isLive
    have notListing : otherKind ≠ .listing := by
      rintro rfl
      cases isLive
    obtain ⟨ne, wasOther⟩ := left isOther notListing
    refine ⟨⟨ne, wasOther⟩, submitting.resolve_right ?_⟩
    rintro ⟨_, live⟩
    have first := (ordered.live isCall live).2
    rw [(ordered.live wasOther isLive).2] at first
    exact ne (some.inj first)
  constructor
  · intro other kind isOther
    rcases remains other kind isOther with ⟨_, there⟩ | ⟨_, wasOther⟩
    · obtain ⟨old, isOld⟩ := ne_none_iff_exists'.mp there
      exact ordered.started isOld
    · exact ordered.started wasOther
  · intro first second isFirst isSecond
    exact ordered.single (left isFirst (by decide)).2 (left isSecond (by decide)).2
  · intro other isOther
    obtain ⟨ne, wasOther⟩ := left isOther (by decide)
    obtain ⟨wasPending, notSubmitting⟩ := ordered.pending wasOther
    constructor
    · rcases pending with same | rfl
      · rw [same, wasPending]
      · exact absurd (ordered.single isCall wasOther) ne
    · rcases submitting with ⟨same, _⟩ | ⟨ended, _⟩
      · rw [same, notSubmitting]
      · exact ended
  · intro other kind nonce isOther isNonce
    have notListing : kind ≠ .listing := by
      rintro rfl
      cases isNonce
    rw [same]
    exact ordered.bounded (left isOther notListing).2 isNonce
  · intro other kind isOther isLive
    rw [same] at isLive
    obtain ⟨⟨_, wasOther⟩, isSubmitting, abort, _⟩ := others isOther isLive
    rw [isSubmitting, abort]
    exact ordered.live wasOther isLive
  · rw [same]
    rintro other (isOther | isOther)
    · obtain ⟨⟨_, wasOther⟩, _, _, stream⟩ := others isOther rfl
      rw [stream]
      exact ordered.connected (.inl wasOther)
    · obtain ⟨⟨_, wasOther⟩, _, _, stream⟩ := others isOther rfl
      rw [stream]
      exact ordered.connected (.inr wasOther)
  · intro other nonce isOther
    rw [same]
    exact ordered.latest (left isOther (by intro equal; cases equal)).2

theorem Ordered.go_on {after : Kind} (isCall : kinds call = some kind)
    (live : kind.nonce = some control.submissionNonce) (sameNonce : after.nonce = kind.nonce)
    (stream : next.activeStream = some call)
    (same : next = { control with activeStream := next.activeStream }) :
    Ordered next (kinds.insert call after) started := by
  have nonce : next.submissionNonce = control.submissionNonce := by rw [same]
  have afterLive : after.nonce = some control.submissionNonce := sameNonce.trans live
  -- The call is the only one that is live.
  have onlyLive : ∀ {other kind}, other ≠ call → kinds other = some kind →
      kind.nonce ≠ some control.submissionNonce := by
    intro other otherKind ne isOther isLive
    have first := (ordered.live isCall live).2
    rw [(ordered.live isOther isLive).2] at first
    exact ne (some.inj first)
  have notOperation : after ≠ .operation := by
    rintro rfl
    cases afterLive
  constructor
  · intro other kind isOther
    rcases insert_eq_some isOther with ⟨rfl, _⟩ | ⟨_, isOther⟩
    · exact ordered.started isCall
    · exact ordered.started isOther
  · intro first second isFirst isSecond
    have isOld := old_of_insert isFirst notOperation.symm
    exact ordered.single isOld (old_of_insert isSecond notOperation.symm)
  · intro other isOther
    rw [same]
    exact ordered.pending (old_of_insert isOther notOperation.symm)
  · intro other otherKind otherNonce isOther isNonce
    rw [nonce]
    rcases insert_eq_some isOther with ⟨_, rfl⟩ | ⟨_, isOther⟩
    · rw [afterLive] at isNonce
      exact Nat.le_of_eq (some.inj isNonce).symm
    · exact ordered.bounded isOther isNonce
  · intro other otherKind isOther isLive
    rw [nonce] at isLive
    rw [same]
    rcases insert_eq_some isOther with ⟨rfl, _⟩ | ⟨ne, isOther⟩
    · exact ordered.live isCall live
    · exact absurd isLive (onlyLive ne isOther)
  · rw [nonce]
    rintro other (isOther | isOther)
    · rcases insert_eq_some isOther with ⟨rfl, _⟩ | ⟨ne, isOther⟩
      · exact stream
      · exact absurd rfl (onlyLive ne isOther)
    · rcases insert_eq_some isOther with ⟨rfl, _⟩ | ⟨ne, isOther⟩
      · exact stream
      · exact absurd rfl (onlyLive ne isOther)
  · intro other otherNonce isOther
    rw [nonce]
    rcases insert_eq_some isOther with ⟨_, rfl⟩ | ⟨_, isOther⟩
    · exact some.inj afterLive
    · exact ordered.latest isOther

theorem Ordered.cancel (noneFinishing : ∀ call nonce, kinds call ≠ some (.finishing nonce))
    (newer : next.submissionNonce = control.submissionNonce + 1)
    (pending : next.isConversationPending = control.isConversationPending)
    (submitting : next.isSubmitting = false) : Ordered next kinds started := by
  have older : ∀ {call kind nonce}, kinds call = some kind → kind.nonce = some nonce →
      nonce < next.submissionNonce := by
    intro call kind nonce isCall isNonce
    have := ordered.bounded isCall isNonce
    omega
  constructor
  · exact ordered.started
  · exact ordered.single
  · intro call isCall
    exact ⟨pending.trans (ordered.pending isCall).1, submitting⟩
  · intro call kind nonce isCall isNonce
    exact Nat.le_of_lt (older isCall isNonce)
  · intro call kind isCall isLive
    exact absurd (older isCall isLive) (Nat.lt_irrefl _)
  · rintro call (isCall | isCall)
    · exact absurd (older isCall rfl) (Nat.lt_irrefl _)
    · exact absurd (older isCall rfl) (Nat.lt_irrefl _)
  · intro call nonce isCall
    exact absurd isCall (noneFinishing call nonce)

end

end

end RuneTerminal.AgentConversations
