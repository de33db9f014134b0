import DeviceMonitoring.Connections

/-! Who owns which channel: an abstract state of clients, servers and channels, what
holds of it between two tasks, and the changes that keep this. -/
namespace DeviceMonitoring

/-- A channel, as its owner and its peer are concerned. -/
structure ChannelEnd where
  peerId : UInt64
  owner : Option Owner
  peer : Option Ref

structure Shape where
  channel : Ref → Option ChannelEnd
  client : Ref → Option (UInt64 × Option Ref)
  connection : Ref → Option (Ref × Option Ref)
  entry : Ref → UInt64 → Option Ref

namespace Shape

/-- What lies opposite to the channel of a client with this identifier, if anything. -/
def FacesConnection (σ : Shape) (clientId : UInt64) (e : ChannelEnd) : Prop :=
  ∀ b f, e.peer = some b → σ.channel b = some f →
    f.peerId = clientId ∧ ∃ n, f.owner = some (.connection n)

/-- `floating` is a channel that is about to be given to a client. -/
structure Owned (floating : Option Ref) (σ : Shape) : Prop where
  client_owns : ∀ c k a, σ.client c = some (k, some a) →
    ∃ e, σ.channel a = some e ∧ e.owner = some (.client c)
  connection_owns : ∀ n s x, σ.connection n = some (s, x) →
    ∃ b e, x = some b ∧ σ.channel b = some e ∧ e.owner = some (.connection n) ∧
      σ.entry s e.peerId = some n
  entry_holds : ∀ s k n, σ.entry s k = some n →
    ∃ b e, σ.connection n = some (s, some b) ∧ σ.channel b = some e ∧ e.peerId = k
  of_client : ∀ a e c, σ.channel a = some e → e.owner = some (.client c) →
    ∃ k, σ.client c = some (k, some a) ∧ σ.FacesConnection k e
  of_connection : ∀ b e n, σ.channel b = some e → e.owner = some (.connection n) →
    (∃ s, σ.connection n = some (s, some b)) ∧
      ∀ a f, e.peer = some a → σ.channel a = some f →
        floating = some a ∨ ∃ c, f.owner = some (.client c)
  ownerless : ∀ a e, σ.channel a = some e → e.owner = none → floating = some a

/-! The changes -/

def setClient (σ : Shape) (c : Ref) (x : Option (UInt64 × Option Ref)) : Shape :=
  { σ with client := Function.update σ.client c x }

def setChannel (σ : Shape) (a : Ref) (e : Option ChannelEnd) : Shape :=
  { σ with channel := Function.update σ.channel a e }

def dropConnection (σ : Shape) (s : Ref) (k : UInt64) (n b : Ref) : Shape where
  channel := Function.update σ.channel b none
  client := σ.client
  connection := Function.update σ.connection n none
  entry t l := if t = s ∧ l = k then none else σ.entry t l

/-- A server gets a connection under a key, with its channel. -/
def addConnection (σ : Shape) (s : Ref) (n b : Ref) (e : ChannelEnd) : Shape where
  channel := Function.update σ.channel b (some e)
  client := σ.client
  connection := Function.update σ.connection n (some (s, some b))
  entry t l := if t = s ∧ l = e.peerId then some n else σ.entry t l

def clientIds (σ : Shape) (c : Ref) : Option UInt64 := (σ.client c).map Prod.fst

theorem clientIds_setClient (σ : Shape) (c : Ref) (x : Option (UInt64 × Option Ref)) :
    (σ.setClient c x).clientIds = Function.update σ.clientIds c (x.map Prod.fst) := by
  funext d
  unfold clientIds setClient
  simp only
  by_cases hd : d = c
  · subst hd
    rw [Function.update_self, Function.update_self]
  · rw [Function.update_of_ne hd, Function.update_of_ne hd]

theorem clientIds_eq_some {σ : Shape} {c : Ref} {k : UInt64} {x : Option Ref}
    (hc : σ.client c = some (k, x)) : σ.clientIds c = some k := by
  rw [clientIds, hc, Option.map_some]

theorem clientIds_keep {σ : Shape} {c : Ref} {k : UInt64} {x y : Option Ref}
    (hc : σ.client c = some (k, x)) : (σ.setClient c (some (k, y))).clientIds = σ.clientIds := by
  rw [clientIds_setClient, Function.update_eq_self_iff, clientIds_eq_some hc]
  rfl

theorem update_eq_some {α : Type} {f : Ref → Option α} {r s : Ref} {x : Option α} {a : α} :
    Function.update f r x s = some a ↔ s = r ∧ x = some a ∨ s ≠ r ∧ f s = some a := by
  by_cases hs : s = r
  · subst hs
    simp
  · simp [hs]

/-- What reads otherwise than the place that is changed stays what it is. -/
theorem update_keep {α : Type} {f : Ref → Option α} {r s : Ref} {x : Option α} {a : α}
    (hs : f s = some a) (hr : f r ≠ some a) : Function.update f r x s = some a := by
  refine update_eq_some.mpr (.inr ⟨?_, hs⟩)
  rintro rfl
  exact hr hs

theorem keep_owner {σ : Shape} {q b : Ref} {e f : ChannelEnd} {x : Option ChannelEnd}
    (hq : σ.channel q = some e) (hf : σ.channel b = some f) (hne : f.owner ≠ e.owner) :
    Function.update σ.channel q x b = some f := by
  apply update_keep hf
  rw [hq]
  intro heq
  exact hne (congrArg ChannelEnd.owner (Option.some.inj heq)).symm

/-- The channels that are live after a change were there before. -/
theorem FacesConnection.anti {σ σ' : Shape} {k : UInt64} {e : ChannelEnd}
    (h : σ.FacesConnection k e)
    (hchannel : ∀ b f, σ'.channel b = some f → σ.channel b = some f) : σ'.FacesConnection k e :=
  fun b f hb hf => h b f hb (hchannel b f hf)

theorem update_none_eq_some {ι α : Type} [DecidableEq ι] {f : ι → Option α} {i j : ι} {a : α}
    (h : Function.update f i none j = some a) : f j = some a := by
  by_cases hj : j = i
  · rw [hj, Function.update_self] at h
    cases h
  · rwa [Function.update_of_ne hj] at h

namespace Owned
variable {floating : Option Ref} {σ : Shape}

theorem empty : Owned none ⟨fun _ => none, fun _ => none, fun _ => none, fun _ _ => none⟩ := by
  constructor
  all_goals
    intros
    contradiction

/-- A client without a channel comes, goes, or changes its identifier. -/
theorem setClient (h : Owned floating σ) {c : Ref} {x : Option (UInt64 × Option Ref)}
    (hold : ∀ k a, σ.client c ≠ some (k, some a)) (hnew : ∀ k a, x ≠ some (k, some a)) :
    Owned floating (σ.setClient c x) := by
  constructor
  · intro d k a hd
    rcases update_eq_some.mp hd with ⟨-, hx⟩ | ⟨-, hd⟩
    · exact absurd hx (hnew k a)
    · exact h.client_owns d k a hd
  · exact h.connection_owns
  · exact h.entry_holds
  · intro a e d ha ho
    obtain ⟨k, hk, hfaces⟩ := h.of_client a e d ha ho
    refine ⟨k, update_eq_some.mpr (.inr ⟨?_, hk⟩), hfaces⟩
    rintro rfl
    exact hold k a hk
  · exact h.of_connection
  · exact h.ownerless

/-- A client loses its channel, and may go with it. -/
theorem dropClientChannel (h : Owned floating σ) {c a : Ref} {k : UInt64}
    {x : Option (UInt64 × Option Ref)} (hc : σ.client c = some (k, some a))
    (hnew : ∀ k a, x ≠ some (k, some a)) :
    Owned floating ((σ.setChannel a none).setClient c x) := by
  obtain ⟨e, he, ho⟩ := h.client_owns c k a hc
  -- a channel of another owner stays
  have hother : ∀ b f, σ.channel b = some f → f.owner ≠ some (.client c) →
      Function.update σ.channel a none b = some f := by
    intro b f hf hfo
    exact keep_owner he hf (by rwa [ho])
  constructor
  · intro d l b hd
    rcases update_eq_some.mp hd with ⟨-, hx⟩ | ⟨hdc, hd⟩
    · exact absurd hx (hnew l b)
    · obtain ⟨f, hf, hfo⟩ := h.client_owns d l b hd
      refine ⟨f, hother b f hf ?_, hfo⟩
      rw [hfo]
      simpa using hdc
  · intro n s x hn
    obtain ⟨b, f, hx, hf, hfo, hentry⟩ := h.connection_owns n s x hn
    exact ⟨b, f, hx, hother b f hf (by simp [hfo]), hfo, hentry⟩
  · intro s l n hn
    obtain ⟨b, f, hb, hf, hl⟩ := h.entry_holds s l n hn
    obtain ⟨b', f', hb', hf', hfo, -⟩ := h.connection_owns n s _ hb
    cases hb'
    rw [hf] at hf'
    cases hf'
    exact ⟨b, f, hb, hother b f hf (by simp [hfo]), hl⟩
  · intro b f d hf hfo
    rcases update_eq_some.mp hf with ⟨-, hf⟩ | ⟨hba, hf⟩
    · cases hf
    obtain ⟨l, hl, hfaces⟩ := h.of_client b f d hf hfo
    refine ⟨l, update_eq_some.mpr (.inr ⟨?_, hl⟩), hfaces.anti fun _ _ => update_none_eq_some⟩
    rintro rfl
    rw [hc] at hl
    cases hl
    exact hba rfl
  · intro b f n hf hfo
    obtain ⟨hs, hfaces⟩ := h.of_connection b f n (update_none_eq_some hf) hfo
    exact ⟨hs, fun a' f' ha' hf' => hfaces a' f' ha' (update_none_eq_some hf')⟩
  · intro b f hf hfo
    exact h.ownerless b f (update_none_eq_some hf) hfo

theorem entry_end (h : Owned floating σ) {s n : Ref} {k : UInt64} (hentry : σ.entry s k = some n) :
    ∃ b e, σ.connection n = some (s, some b) ∧ σ.channel b = some e ∧ e.peerId = k ∧
      e.owner = some (.connection n) := by
  obtain ⟨b, e, hb, he, hk⟩ := h.entry_holds s k n hentry
  obtain ⟨b', e', hb', he', ho, -⟩ := h.connection_owns n s _ hb
  cases hb'
  rw [he] at he'
  cases he'
  exact ⟨b, e, hb, he, hk, ho⟩

theorem dropConnection (h : Owned floating σ) {s n b : Ref} {k : UInt64}
    (hentry : σ.entry s k = some n) (hn : σ.connection n = some (s, some b)) :
    Owned floating (σ.dropConnection s k n b) := by
  obtain ⟨b', e, hb', he, hk, ho⟩ := h.entry_end hentry
  obtain rfl : b' = b := by
    rw [hn] at hb'
    cases hb'
    rfl
  have hother : ∀ a f, σ.channel a = some f → f.owner ≠ some (.connection n) →
      Function.update σ.channel b' none a = some f := by
    intro a f hf hfo
    exact keep_owner he hf (by rwa [ho])
  constructor
  · intro c l a hc
    obtain ⟨f, hf, hfo⟩ := h.client_owns c l a hc
    exact ⟨f, hother a f hf (by simp [hfo]), hfo⟩
  · intro m t x hm
    rcases update_eq_some.mp hm with ⟨-, hm⟩ | ⟨hmn, hm⟩
    · cases hm
    obtain ⟨a, f, hx, hf, hfo, hfentry⟩ := h.connection_owns m t x hm
    refine ⟨a, f, hx, hother a f hf (by rw [hfo]; simpa using hmn), hfo, ?_⟩
    refine (if_neg ?_).trans hfentry
    rintro ⟨rfl, hl⟩
    rw [hl, hentry] at hfentry
    cases hfentry
    exact hmn rfl
  · intro t l m hm
    simp only [Shape.dropConnection] at hm
    split at hm
    next => cases hm
    next hne =>
      obtain ⟨a, f, ha, hf, hl, hfo⟩ := h.entry_end hm
      have hmn : m ≠ n := by
        rintro rfl
        rw [hn] at ha
        cases ha
        rw [he] at hf
        cases hf
        exact hne ⟨rfl, hl.symm.trans hk⟩
      refine ⟨a, f, update_eq_some.mpr (.inr ⟨hmn, ha⟩), hother a f hf ?_, hl⟩
      rw [hfo]
      simpa using hmn
  · intro a f c hf hfo
    obtain ⟨l, hl, hfaces⟩ := h.of_client a f c (update_none_eq_some hf) hfo
    exact ⟨l, hl, hfaces.anti fun _ _ => update_none_eq_some⟩
  · intro a f m hf hfo
    rcases update_eq_some.mp hf with ⟨-, hf⟩ | ⟨hab, hf⟩
    · cases hf
    obtain ⟨⟨t, ht⟩, hfaces⟩ := h.of_connection a f m hf hfo
    refine ⟨⟨t, update_eq_some.mpr (.inr ⟨?_, ht⟩)⟩,
      fun a' f' ha' hf' => hfaces a' f' ha' (update_none_eq_some hf')⟩
    rintro rfl
    rw [hn] at ht
    cases ht
    exact hab rfl
  · intro a f hf hfo
    exact h.ownerless a f (update_none_eq_some hf) hfo

/-- A channel with no owner yet. -/
theorem addFloating (h : Owned none σ) {q : Ref} {e : ChannelEnd} (hq : σ.channel q = none)
    (hpeer : ∀ a f, σ.channel a = some f → f.peer ≠ some q) (ho : e.owner = none) :
    Owned (some q) (σ.setChannel q (some e)) := by
  have hkeep : ∀ b f, σ.channel b = some f → Function.update σ.channel q (some e) b = some f :=
    fun b f hf => update_keep hf (by simp [hq])
  -- an owned channel is an old one, and so is what lies opposite to it
  have hold : ∀ b f, Function.update σ.channel q (some e) b = some f → f.owner ≠ none →
      σ.channel b = some f ∧ ∀ a f', f.peer = some a →
        Function.update σ.channel q (some e) a = some f' → σ.channel a = some f' := by
    intro b f hf hfo
    rcases update_eq_some.mp hf with ⟨-, hf⟩ | ⟨-, hf⟩
    · cases hf
      exact absurd ho hfo
    refine ⟨hf, fun a f' ha hf' => ?_⟩
    rcases update_eq_some.mp hf' with ⟨haq, -⟩ | ⟨-, hf'⟩
    · exact absurd (haq ▸ ha) (hpeer b f hf)
    · exact hf'
  constructor
  · intro c k a hc
    obtain ⟨f, hf, hfo⟩ := h.client_owns c k a hc
    exact ⟨f, hkeep a f hf, hfo⟩
  · intro n s x hn
    obtain ⟨b, f, hx, hf, hfo⟩ := h.connection_owns n s x hn
    exact ⟨b, f, hx, hkeep b f hf, hfo⟩
  · intro s k n hn
    obtain ⟨b, f, hb, hf, hk⟩ := h.entry_holds s k n hn
    exact ⟨b, f, hb, hkeep b f hf, hk⟩
  · intro a f c hf hfo
    obtain ⟨hf', hopp⟩ := hold a f hf (by simp [hfo])
    obtain ⟨k, hk, hfaces⟩ := h.of_client a f c hf' hfo
    exact ⟨k, hk, fun b g hb hg => hfaces b g hb (hopp b g hb hg)⟩
  · intro b f n hf hfo
    obtain ⟨hf', hopp⟩ := hold b f hf (by simp [hfo])
    obtain ⟨hs, hfaces⟩ := h.of_connection b f n hf' hfo
    refine ⟨hs, fun a g ha hg => .inr ?_⟩
    exact (hfaces a g ha (hopp a g ha hg)).resolve_left (by simp)
  · intro a f hf hfo
    rcases update_eq_some.mp hf with ⟨rfl, -⟩ | ⟨-, hf⟩
    · rfl
    · cases h.ownerless a f hf hfo

/-- A new connection, opposite to the channel that still has no owner. -/
theorem addConnection (h : Owned floating σ) {s n p q : Ref} {e : ChannelEnd}
    (hp : σ.channel p = none) (hn : σ.connection n = none) (hentry : σ.entry s e.peerId = none)
    (ho : e.owner = some (.connection n)) (hq : e.peer = some q) (hfloating : floating = some q)
    (hpeer : ∀ a f, σ.channel a = some f → f.owner ≠ none → f.peer ≠ some p) :
    Owned floating (σ.addConnection s n p e) := by
  have hkeep : ∀ b f, σ.channel b = some f → Function.update σ.channel p (some e) b = some f :=
    fun b f hf => update_keep hf (by simp [hp])
  have hopp : ∀ b f, σ.channel b = some f → f.owner ≠ none → ∀ a f', f.peer = some a →
      Function.update σ.channel p (some e) a = some f' → σ.channel a = some f' := by
    intro b f hf hfo a f' ha hf'
    rcases update_eq_some.mp hf' with ⟨rfl, -⟩ | ⟨-, hf'⟩
    · exact absurd ha (hpeer b f hf hfo)
    · exact hf'
  constructor
  · intro c k a hc
    obtain ⟨f, hf, hfo⟩ := h.client_owns c k a hc
    exact ⟨f, hkeep a f hf, hfo⟩
  · intro m t x hm
    rcases update_eq_some.mp hm with ⟨hmn, hm⟩ | ⟨-, hm⟩
    · cases hm
      subst hmn
      exact ⟨p, e, rfl, update_eq_some.mpr (.inl ⟨rfl, rfl⟩), ho, if_pos ⟨rfl, rfl⟩⟩
    · obtain ⟨b, f, hx, hf, hfo, hfentry⟩ := h.connection_owns m t x hm
      refine ⟨b, f, hx, hkeep b f hf, hfo, (if_neg ?_).trans hfentry⟩
      rintro ⟨rfl, hl⟩
      rw [hl, hentry] at hfentry
      cases hfentry
  · intro t l m hm
    simp only [Shape.addConnection] at hm
    split at hm
    next heq =>
      cases hm
      obtain ⟨rfl, rfl⟩ := heq
      exact ⟨p, e, update_eq_some.mpr (.inl ⟨rfl, rfl⟩), update_eq_some.mpr (.inl ⟨rfl, rfl⟩), rfl⟩
    next =>
      obtain ⟨b, f, hb, hf, hl⟩ := h.entry_holds t l m hm
      refine ⟨b, f, update_eq_some.mpr (.inr ⟨?_, hb⟩), hkeep b f hf, hl⟩
      rintro rfl
      rw [hn] at hb
      cases hb
  · intro a f c hf hfo
    rcases update_eq_some.mp hf with ⟨-, hf⟩ | ⟨-, hf⟩
    · cases hf
      rw [ho] at hfo
      cases hfo
    obtain ⟨k, hk, hfaces⟩ := h.of_client a f c hf hfo
    exact ⟨k, hk, fun b g hb hg => hfaces b g hb (hopp a f hf (by simp [hfo]) b g hb hg)⟩
  · intro b f m hf hfo
    rcases update_eq_some.mp hf with ⟨hbp, hf⟩ | ⟨-, hf⟩
    · cases hf
      subst hbp
      rw [ho] at hfo
      cases hfo
      refine ⟨⟨s, update_eq_some.mpr (.inl ⟨rfl, rfl⟩)⟩, fun a g ha _ => .inl ?_⟩
      rw [hfloating, ← hq, ha]
    · obtain ⟨⟨t, ht⟩, hfaces⟩ := h.of_connection b f m hf hfo
      refine ⟨⟨t, update_eq_some.mpr (.inr ⟨?_, ht⟩)⟩,
        fun a g ha hg => hfaces a g ha (hopp b f hf (by simp [hfo]) a g ha hg)⟩
      rintro rfl
      rw [hn] at ht
      cases ht
  · intro a f hf hfo
    rcases update_eq_some.mp hf with ⟨-, hf⟩ | ⟨-, hf⟩
    · cases hf
      rw [ho] at hfo
      cases hfo
    · exact h.ownerless a f hf hfo

/-- The client takes the channel that had no owner. -/
theorem adopt {q c : Ref} {k : UInt64} {e : ChannelEnd} (h : Owned (some q) σ)
    (hc : σ.client c = some (k, none)) (hq : σ.channel q = some e) (ho : e.owner = none)
    (hfaces : σ.FacesConnection k e) :
    Owned none ((σ.setChannel q (some { e with owner := some (.client c) })).setClient c
      (some (k, some q))) := by
  have hkeep : ∀ b f, σ.channel b = some f → f.owner ≠ none →
      Function.update σ.channel q (some { e with owner := some (.client c) }) b = some f := by
    intro b f hf hfo
    exact keep_owner hq hf (by rwa [ho])
  -- the channel is not opposite to a client's
  have hclient : ∀ l f, σ.FacesConnection l f → FacesConnection ((σ.setChannel q
      (some { e with owner := some (.client c) })).setClient c (some (k, some q))) l f := by
    intro l f hf b g hb hg
    rcases update_eq_some.mp hg with ⟨rfl, -⟩ | ⟨-, hg⟩
    · obtain ⟨-, n, hn⟩ := hf b e hb hq
      rw [ho] at hn
      cases hn
    · exact hf b g hb hg
  constructor
  · intro d l a hd
    rcases update_eq_some.mp hd with ⟨hdc, hd⟩ | ⟨-, hd⟩
    · cases hd
      subst hdc
      exact ⟨_, update_eq_some.mpr (.inl ⟨rfl, rfl⟩), rfl⟩
    · obtain ⟨f, hf, hfo⟩ := h.client_owns d l a hd
      exact ⟨f, hkeep a f hf (by simp [hfo]), hfo⟩
  · intro n s x hn
    obtain ⟨b, f, hx, hf, hfo, hentry⟩ := h.connection_owns n s x hn
    exact ⟨b, f, hx, hkeep b f hf (by simp [hfo]), hfo, hentry⟩
  · intro s l n hn
    obtain ⟨b, f, hb, hf, hl, hfo⟩ := h.entry_end hn
    exact ⟨b, f, hb, hkeep b f hf (by simp [hfo]), hl⟩
  · intro a f d hf hfo
    rcases update_eq_some.mp hf with ⟨haq, hf⟩ | ⟨-, hf⟩
    · cases hf
      cases hfo
      subst haq
      exact ⟨k, update_eq_some.mpr (.inl ⟨rfl, rfl⟩), hclient k e hfaces⟩
    · obtain ⟨l, hl, hf'⟩ := h.of_client a f d hf hfo
      refine ⟨l, update_eq_some.mpr (.inr ⟨?_, hl⟩), hclient l f hf'⟩
      rintro rfl
      rw [hc] at hl
      cases hl
  · intro b f n hf hfo
    rcases update_eq_some.mp hf with ⟨-, hf⟩ | ⟨-, hf⟩
    · cases hf
      cases hfo
    obtain ⟨hs, hf'⟩ := h.of_connection b f n hf hfo
    refine ⟨hs, fun a g ha hg => .inr ?_⟩
    rcases update_eq_some.mp hg with ⟨-, hg⟩ | ⟨haq, hg⟩
    · cases hg
      exact ⟨c, rfl⟩
    · refine (hf' a g ha hg).resolve_left ?_
      rw [Option.some.injEq]
      exact Ne.symm haq
  · intro a f hf hfo
    rcases update_eq_some.mp hf with ⟨-, hf⟩ | ⟨haq, hf⟩
    · cases hf
      cases hfo
    · exact absurd (Option.some.inj (h.ownerless a f hf hfo)).symm haq

/-- The channel that had no owner goes. -/
theorem dropFloating {q : Ref} {e : ChannelEnd} (h : Owned (some q) σ)
    (hq : σ.channel q = some e) (ho : e.owner = none) : Owned none (σ.setChannel q none) := by
  have hkeep : ∀ b f, σ.channel b = some f → f.owner ≠ none →
      Function.update σ.channel q none b = some f := by
    intro b f hf hfo
    exact keep_owner hq hf (by rwa [ho])
  constructor
  · intro c k a hc
    obtain ⟨f, hf, hfo⟩ := h.client_owns c k a hc
    exact ⟨f, hkeep a f hf (by simp [hfo]), hfo⟩
  · intro n s x hn
    obtain ⟨b, f, hx, hf, hfo, hentry⟩ := h.connection_owns n s x hn
    exact ⟨b, f, hx, hkeep b f hf (by simp [hfo]), hfo, hentry⟩
  · intro s k n hn
    obtain ⟨b, f, hb, hf, hk, hfo⟩ := h.entry_end hn
    exact ⟨b, f, hb, hkeep b f hf (by simp [hfo]), hk⟩
  · intro a f c hf hfo
    obtain ⟨k, hk, hfaces⟩ := h.of_client a f c (update_none_eq_some hf) hfo
    exact ⟨k, hk, hfaces.anti fun _ _ => update_none_eq_some⟩
  · intro b f n hf hfo
    obtain ⟨hs, hfaces⟩ := h.of_connection b f n (update_none_eq_some hf) hfo
    refine ⟨hs, fun a g ha hg => .inr ?_⟩
    rcases update_eq_some.mp hg with ⟨-, hg⟩ | ⟨haq, hg⟩
    · cases hg
    · refine (hfaces a g ha hg).resolve_left ?_
      rw [Option.some.injEq]
      exact Ne.symm haq
  · intro a f hf hfo
    rcases update_eq_some.mp hf with ⟨-, hf⟩ | ⟨haq, hf⟩
    · cases hf
    · exact absurd (Option.some.inj (h.ownerless a f hf hfo)).symm haq

end Owned
end Shape
end DeviceMonitoring
