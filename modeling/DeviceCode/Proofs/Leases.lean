import DeviceCode.Launch.Completion
import DeviceCode.Proofs.Maps

/-!
# Who holds which completion

A lease counts its holders but does not know them. A `Hold` is one holder's share: the lease and the
completion that the holder takes it to be for. Attached events have one each, which is read off
their attachments, and others may have any number of them besides.

`Lent` compares the leases with a list of all holds: every count is the number of holds on the
lease, and the outstanding completions are those that somebody holds. Holds are listed without an
order, so `grant`, `share` and `leave` are one hold more or one hold less, and attaching or
detaching an event only passes a hold from the event to whoever has to leave it.
-/

namespace DeviceCode

/-- A share in a lease. -/
structure Hold where
  lease : LeaseId
  completion : CompletionHandle
  deriving DecidableEq, Repr

/-- A lease that no hold is on is counted nowhere. -/
theorem Hold.count_eq_zero {holds : List Hold} {id : LeaseId} (h : ∀ x ∈ holds, x.lease ≠ id) :
    (holds.map (·.lease)).count id = 0 := by
  refine List.count_eq_zero.mpr fun hmem => ?_
  obtain ⟨x, hx, heq⟩ := List.mem_map.mp hmem
  exact h x hx heq

/-- The share of an attached event. -/
def Attachment.hold (a : Attachment) : Hold := ⟨a.lease, a.record.completion⟩

namespace Completions

/-- The shares of all attached events. -/
def attached (cs : Completions) : List Hold := cs.attachments.entries.map (·.2.hold)

/-- The leases are held by exactly the given holds, and the outstanding completions are theirs. -/
structure Lent (cs : Completions) (holds : List Hold) (out : List CompletionHandle) : Prop where
  counted : ∀ id l, cs.leases.get? id = some l →
    l.managed = true ∧ 0 < l.holders ∧ l.holders = (holds.map (·.lease)).count id
  held : ∀ x ∈ holds, ∃ l, cs.leases.get? x.lease = some l ∧ l.completion = x.completion
  below : ∀ x ∈ holds, x.lease < cs.nextLease
  /-- No two leases are for one completion. -/
  single : ∀ x ∈ holds, ∀ y ∈ holds, x.completion = y.completion → x.lease = y.lease
  outstanding : ∀ c, c ∈ out ↔ c ∈ holds.map (·.completion)
  distinct : out.Nodup

namespace Lent

variable {cs : Completions} {holds rest : List Hold} {out : List CompletionHandle} {x : Hold}

theorem perm (h : cs.Lent holds out) (hp : holds.Perm rest) : cs.Lent rest out where
  counted id l hl := by
    rw [← (hp.map (·.lease)).count_eq id]
    exact h.counted id l hl
  held y hy := h.held y (hp.mem_iff.mpr hy)
  below y hy := h.below y (hp.mem_iff.mpr hy)
  single y hy z hz := h.single y (hp.mem_iff.mpr hy) z (hp.mem_iff.mpr hz)
  outstanding c := (h.outstanding c).trans (hp.map (·.completion)).mem_iff
  distinct := h.distinct

/-- Nothing is known of events here, so they may change. -/
theorem frame (h : cs.Lent holds out) {cs' : Completions} (hl : cs'.leases = cs.leases)
    (hn : cs'.nextLease = cs.nextLease) : cs'.Lent holds out where
  counted := by rw [hl]; exact h.counted
  held := by rw [hl]; exact h.held
  below := by rw [hn]; exact h.below
  single := h.single
  outstanding := h.outstanding
  distinct := h.distinct

/-- Holds on one lease are for one completion. -/
theorem agree (h : cs.Lent holds out) {y : Hold} (hx : x ∈ holds) (hy : y ∈ holds)
    (hxy : x.lease = y.lease) : x.completion = y.completion := by
  obtain ⟨l, hl, hlx⟩ := h.held x hx
  obtain ⟨k, hk, hky⟩ := h.held y hy
  rw [hxy, hk] at hl
  cases hl
  exact hlx.symm.trans hky

/-- A new lease is held once. -/
theorem grant (h : cs.Lent holds out) {c : CompletionHandle} (hc : c ∉ out) :
    (cs.grant c true).2.Lent (⟨cs.nextLease, c⟩ :: holds) (out ++ [c]) := by
  have hfresh : ∀ x ∈ holds, x.completion ≠ c := fun x hx heq =>
    hc ((h.outstanding c).mpr (List.mem_map.mpr ⟨x, hx, heq⟩))
  have hnew : ∀ x ∈ holds, x.lease ≠ cs.nextLease := fun x hx => Nat.ne_of_lt (h.below x hx)
  unfold Completions.grant
  refine ⟨?counted, ?held, ?below, ?single, ?outstanding, ?distinct⟩
  case counted =>
    intro id l hl
    rw [Assoc.get?_put] at hl
    rw [List.map_cons]
    by_cases hid : cs.nextLease = id
    · subst hid
      rw [if_pos rfl] at hl
      cases hl
      rw [List.count_cons_self, Hold.count_eq_zero hnew]
      exact ⟨rfl, Nat.one_pos, rfl⟩
    · rw [if_neg hid] at hl
      rw [List.count_cons_of_ne hid]
      exact h.counted id l hl
  case held =>
    intro x hx
    rw [Assoc.get?_put]
    rcases List.mem_cons.mp hx with rfl | hx
    · exact ⟨_, if_pos rfl, rfl⟩
    · rw [if_neg (hnew x hx).symm]
      exact h.held x hx
  case below =>
    intro x hx
    rcases List.mem_cons.mp hx with rfl | hx
    · exact Nat.lt_succ_self _
    · exact Nat.lt_succ_of_lt (h.below x hx)
  case single =>
    intro x hx y hy hxy
    rcases List.mem_cons.mp hx with rfl | hx <;> rcases List.mem_cons.mp hy with rfl | hy
    · rfl
    · exact absurd hxy.symm (hfresh y hy)
    · exact absurd hxy (hfresh x hx)
    · exact h.single x hx y hy hxy
  case outstanding =>
    intro d
    rw [List.mem_append, List.mem_singleton, h.outstanding d, List.map_cons, List.mem_cons]
    exact or_comm
  case distinct =>
    refine List.nodup_append.mpr ⟨h.distinct, List.pairwise_singleton _ c, fun d hd e he heq => ?_⟩
    cases List.mem_singleton.mp he
    exact hc (heq ▸ hd)

/-- A lease that gains or loses holders while it keeps some. Nothing becomes or stops being
outstanding. -/
theorem recount (h : cs.Lent holds out) {id : LeaseId} {l : Lease}
    (hl : cs.leases.get? id = some l) {n : Nat} (hn : n = (rest.map (·.lease)).count id)
    (hpos : 0 < n)
    (hothers : ∀ k, id ≠ k → (rest.map (·.lease)).count k = (holds.map (·.lease)).count k)
    (hrest : ∀ y ∈ rest, y ∈ holds)
    (hsame : ∀ c, c ∈ holds.map (·.completion) ↔ c ∈ rest.map (·.completion)) :
    { cs with leases := cs.leases.put id { l with holders := n } : Completions }.Lent rest out := by
  obtain ⟨hmanaged, -, -⟩ := h.counted id l hl
  refine ⟨?counted, ?held, fun y hy => h.below y (hrest y hy),
    fun y hy z hz => h.single y (hrest y hy) z (hrest z hz),
    fun c => (h.outstanding c).trans (hsame c), h.distinct⟩
  case counted =>
    intro k m hm
    rw [Assoc.get?_put] at hm
    by_cases hid : id = k
    · subst hid
      rw [if_pos rfl] at hm
      cases hm
      exact ⟨hmanaged, hpos, hn⟩
    · rw [if_neg hid] at hm
      rw [hothers k hid]
      exact h.counted k m hm
  case held =>
    intro y hy
    obtain ⟨k, hk, hky⟩ := h.held y (hrest y hy)
    rw [Assoc.get?_put]
    by_cases hid : id = y.lease
    · rw [← hid, hl] at hk
      cases hk
      exact ⟨_, if_pos hid, hky⟩
    · rw [if_neg hid]
      exact ⟨k, hk, hky⟩

/-- A holder can share what it holds. -/
theorem share (h : cs.Lent holds out) (hx : x ∈ holds) :
    (cs.share x.lease).Lent (x :: holds) out := by
  obtain ⟨l, hl, -⟩ := h.held x hx
  obtain ⟨-, -, hcount⟩ := h.counted _ l hl
  unfold Completions.share
  rw [hl]
  refine h.recount hl ?_ (Nat.succ_pos _) (fun k hk => ?_) (fun y hy => ?_) fun c => ?_
  · rw [List.map_cons, List.count_cons_self, hcount]
  · rw [List.map_cons, List.count_cons_of_ne hk]
  · rcases List.mem_cons.mp hy with rfl | hy
    · exact hx
    · exact hy
  · rw [List.map_cons, List.mem_cons]
    exact ⟨.inr, fun hc => hc.elim (fun heq => heq ▸ List.mem_map_of_mem hx) id⟩

/-- Leaving a lease that somebody else holds too gives nothing back. -/
theorem leave_shared (h : cs.Lent (x :: rest) out) (hs : ∃ y ∈ rest, y.lease = x.lease) :
    (cs.leave x.lease).1 = none ∧ (cs.leave x.lease).2.Lent rest out := by
  obtain ⟨y, hy, hyx⟩ := hs
  have hx : x ∈ x :: rest := List.mem_cons_self
  have hrest : ∀ z ∈ rest, z ∈ x :: rest := fun z hz => List.mem_cons_of_mem x hz
  obtain ⟨l, hl, -⟩ := h.held x hx
  obtain ⟨-, -, hcount⟩ := h.counted _ l hl
  rw [List.map_cons, List.count_cons_self] at hcount
  have hmore : 0 < (rest.map (·.lease)).count x.lease :=
    List.count_pos_iff.mpr (List.mem_map.mpr ⟨y, hy, hyx⟩)
  unfold Completions.leave
  rw [hl]
  dsimp only
  rw [if_pos (by omega)]
  refine ⟨rfl, h.recount hl (by omega) (by omega) (fun k hk => ?_) hrest fun c => ?_⟩
  · rw [List.map_cons, List.count_cons_of_ne hk]
  · rw [List.map_cons, List.mem_cons]
    -- the other holder of the lease stands in for the one that leaves
    have hother : c = x.completion → c ∈ rest.map (·.completion) := fun hc =>
      List.mem_map.mpr ⟨y, hy, (h.agree (hrest y hy) hx hyx).trans hc.symm⟩
    exact ⟨fun hc => hc.elim hother id, .inr⟩

/-- The last holder gives the completion back. -/
theorem leave_last (h : cs.Lent (x :: rest) out) (hs : ∀ y ∈ rest, y.lease ≠ x.lease) :
    (cs.leave x.lease).1 = some x.completion ∧
      (cs.leave x.lease).2.Lent rest (out.erase x.completion) := by
  have hx : x ∈ x :: rest := List.mem_cons_self
  have hrest : ∀ z ∈ rest, z ∈ x :: rest := fun z hz => List.mem_cons_of_mem x hz
  obtain ⟨l, hl, hlx⟩ := h.held x hx
  obtain ⟨hmanaged, -, hcount⟩ := h.counted _ l hl
  rw [List.map_cons, List.count_cons_self, Hold.count_eq_zero hs] at hcount
  unfold Completions.leave
  rw [hl]
  dsimp only
  rw [if_neg (by omega), if_pos hmanaged, hlx]
  refine ⟨rfl, ?counted, ?held, fun z hz => h.below z (hrest z hz),
    fun z hz v hv => h.single z (hrest z hz) v (hrest v hv), ?outstanding, h.distinct.erase _⟩
  case counted =>
    intro id k hk
    rw [Assoc.get?_erase] at hk
    by_cases hid : x.lease = id
    · rw [if_pos hid] at hk
      cases hk
    · rw [if_neg hid] at hk
      have hk' := h.counted id k hk
      rw [List.map_cons, List.count_cons_of_ne hid] at hk'
      exact hk'
  case held =>
    intro z hz
    rw [Assoc.get?_erase, if_neg (hs z hz).symm]
    exact h.held z (hrest z hz)
  case outstanding =>
    intro c
    rw [h.distinct.mem_erase_iff, h.outstanding c, List.map_cons, List.mem_cons]
    constructor
    · rintro ⟨hne, heq | hc⟩
      · exact absurd heq hne
      · exact hc
    · intro hc
      obtain ⟨z, hz, rfl⟩ := List.mem_map.mp hc
      -- no other lease is for the completion that goes back
      exact ⟨fun heq => hs z hz (h.single z (hrest z hz) x hx heq), .inr hc⟩

end Lent

/-! ## Events -/

/-- What an event holds. -/
def holdOf? (cs : Completions) (event : String) : Option Hold :=
  (cs.attachments.get? event).map (·.hold)

theorem holdOf?_lease (cs : Completions) (event : String) :
    (cs.holdOf? event).map (·.lease) = (cs.attachments.get? event).map (·.lease) := by
  unfold holdOf?
  rw [Option.map_map]
  rfl

/-- Events and the given others hold all leases that there are. -/
structure Balanced (cs : Completions) (others : List Hold) (out : List CompletionHandle) :
    Prop where
  events : cs.attachments.keys.Nodup
  lent : cs.Lent (cs.attached ++ others) out

variable {cs : Completions} {others : List Hold} {out : List CompletionHandle} {x : Hold}

@[simp] theorem share_attachments (id : LeaseId) : (cs.share id).attachments = cs.attachments := by
  unfold share
  split <;> rfl

@[simp] theorem leave_attachments (id : LeaseId) :
    (cs.leave id).2.attachments = cs.attachments := by
  unfold leave
  split
  · rfl
  · split <;> rfl

/-- The holds of events are that of one event and those of the others. -/
theorem attached_perm (h : cs.attachments.keys.Nodup) (event : String) :
    cs.attached.Perm
      ((cs.holdOf? event).toList ++ (cs.attachments.erase event).entries.map (·.2.hold)) := by
  have hp := (Assoc.entries_perm h event).map (·.2.hold)
  rw [List.map_append] at hp
  unfold attached holdOf?
  cases hget : cs.attachments.get? event with
  | none =>
    rw [hget] at hp
    exact hp
  | some a =>
    rw [hget] at hp
    exact hp

namespace Balanced

theorem empty : ({} : Completions).Balanced [] [] where
  events := List.nodup_nil
  lent :=
    { counted := fun _ _ hl => nomatch hl
      held := fun _ hx => nomatch hx
      below := fun _ hx => nomatch hx
      single := fun _ hx => nomatch hx
      outstanding := fun _ => .rfl
      distinct := List.nodup_nil }

theorem perm {others' : List Hold} (h : cs.Balanced others out) (hp : others.Perm others') :
    cs.Balanced others' out :=
  ⟨h.events, h.lent.perm (hp.append_left _)⟩

theorem mem_attached (h : cs.Balanced others out) {event : String} {a : Attachment}
    (ha : cs.attachments.get? event = some a) : a.hold ∈ cs.attached :=
  List.mem_map.mpr ⟨(event, a), (Assoc.mem_entries h.events).mpr ha, rfl⟩

theorem holdOf?_mem (h : cs.Balanced others out) {event : String} (hx : cs.holdOf? event = some x) :
    x ∈ cs.attached := by
  obtain ⟨a, ha, rfl⟩ := Option.map_eq_some_iff.mp hx
  exact h.mem_attached ha

/-- The outstanding completions are those that events have on record and those of the others. -/
theorem mem_out (h : cs.Balanced others out) (c : CompletionHandle) :
    c ∈ out ↔ (∃ event record, cs.record? event = some record ∧ record.completion = c) ∨
      ∃ x ∈ others, x.completion = c := by
  rw [h.lent.outstanding, List.map_append, List.mem_append, List.mem_map, List.mem_map]
  refine or_congr_left ⟨fun ⟨x, hx, hc⟩ => ?_, fun ⟨event, record, hr, hc⟩ => ?_⟩
  · obtain ⟨⟨event, a⟩, he, rfl⟩ := List.mem_map.mp hx
    have ha := (Assoc.mem_entries h.events).mp he
    exact ⟨event, a.record, congrArg (Option.map _) ha, hc⟩
  · obtain ⟨a, ha, rfl⟩ := Option.map_eq_some_iff.mp hr
    exact ⟨a.hold, h.mem_attached ha, hc⟩

theorem grant (h : cs.Balanced others out) {c : CompletionHandle} (hc : c ∉ out) :
    (cs.grant c true).2.Balanced (⟨(cs.grant c true).1, c⟩ :: others) (out ++ [c]) :=
  ⟨h.events, (h.lent.grant hc).perm List.perm_middle.symm⟩

theorem share (h : cs.Balanced others out) (hx : x ∈ cs.attached ++ others) :
    (cs.share x.lease).Balanced (x :: others) out where
  events := by rw [share_attachments]; exact h.events
  lent := by
    rw [attached, share_attachments]
    exact (h.lent.share hx).perm List.perm_middle.symm

/-- An attached event shares a hold; what it held before is left to be given up. -/
theorem attach (h : cs.Balanced others out) (hx : x ∈ cs.attached ++ others) (event : String)
    {record : EventRecord} (hr : record.completion = x.completion) :
    (cs.attach event x.lease record).2.Balanced ((cs.holdOf? event).toList ++ others) out where
  events := Assoc.keys_put_nodup h.events event _
  lent := by
    have hnew : (Attachment.mk record x.lease).hold = x := by
      unfold Attachment.hold
      rw [hr]
    -- the new hold takes the place of the old one, which is handed to the others
    have hp : (x :: (cs.attached ++ others)).Perm
        ((cs.attach event x.lease record).2.attached ++
          ((cs.holdOf? event).toList ++ others)) := by
      have hput : (cs.attach event x.lease record).2.attached =
          x :: (cs.attachments.erase event).entries.map (·.2.hold) :=
        congrArg (· :: _) hnew
      rw [hput, List.cons_append, ← List.append_assoc]
      exact (((attached_perm h.events event).trans List.perm_append_comm).append_right _).cons x
    exact ((h.lent.share hx).perm hp).frame rfl rfl

/-- What a detached event held is left to be given up. -/
theorem detach (h : cs.Balanced others out) (event : String) :
    (cs.detach event).2.Balanced ((cs.holdOf? event).toList ++ others) out where
  events := Assoc.keys_erase_nodup h.events event
  lent := by
    have hp : (cs.attached ++ others).Perm
        ((cs.detach event).2.attached ++ ((cs.holdOf? event).toList ++ others)) := by
      rw [← List.append_assoc]
      exact ((attached_perm h.events event).trans List.perm_append_comm).append_right _
    exact (h.lent.perm hp).frame rfl rfl

/-- Giving up a hold gives its completion back exactly when nobody else holds it. -/
theorem leave (h : cs.Balanced (x :: others) out) :
    (cs.leave x.lease).1 = none ∧ (cs.leave x.lease).2.Balanced others out ∨
      (cs.leave x.lease).1 = some x.completion ∧ x.completion ∈ out ∧
        (cs.leave x.lease).2.Balanced others (out.erase x.completion) := by
  have hlent : cs.Lent (x :: (cs.attached ++ others)) out := h.lent.perm List.perm_middle
  have hbalanced : ∀ {out'}, (cs.leave x.lease).2.Lent (cs.attached ++ others) out' →
      (cs.leave x.lease).2.Balanced others out' := fun hl =>
    ⟨by rw [leave_attachments]; exact h.events,
      by rw [attached, leave_attachments]; exact hl⟩
  by_cases hs : ∃ y ∈ cs.attached ++ others, y.lease = x.lease
  · obtain ⟨hnone, hleft⟩ := hlent.leave_shared hs
    exact .inl ⟨hnone, hbalanced hleft⟩
  · have hout : x.completion ∈ out :=
      (hlent.outstanding _).mpr (List.mem_map_of_mem List.mem_cons_self)
    obtain ⟨hsome, hleft⟩ := hlent.leave_last fun y hy heq => hs ⟨y, hy, heq⟩
    exact .inr ⟨hsome, hout, hbalanced hleft⟩

end Balanced

end Completions

end DeviceCode
