import Gamebook.Proofs.App.Kept

/-! Whole flights of calls to a player. Of what waits, each call holds at most one fetch, one mount, and one
seat: of the boots in flight only one has its turn, and how far it got says whether the channel may hold a
transition. `Aloft` says this beside `Kept`. -/
namespace Gamebook

/-- The calls of someone who plays. -/
def Call.Plays : Call → Prop
  | .boot _ => True
  | .go _ => True
  | .tap _ => True
  | .choose _ => True
  | .pump => True
  | _ => False

namespace Waiting

def fits : Waiting → Multiset Fitting
  | .booting (.opening (.regions w)) => {w}
  | .going (.following w) => {w}
  | .tapping (.dispatching w) => {w}
  | _ => 0

def mounts : Waiting → Multiset Mounting
  | .booting (.pumping w) => {w.inner}
  | .going (.pumping _ w) => {w.inner}
  | .tapping (.pumping _ w) => {w.inner}
  | .pumping w => {w.inner}
  | _ => 0

def seats : Waiting → Multiset App.Booting
  | .booting (.turn _) => 0
  | .booting w => {w}
  | _ => 0

/-- A call that holds nothing while it waits. -/
structure Light (w : Waiting) : Prop where
  fits : w.fits = 0
  mounts : w.mounts = 0
  seats : w.seats = 0

theorem light_turn (link : Option String) : (Waiting.booting (.turn link)).Light := ⟨rfl, rfl, rfl⟩

/-- What a call of someone who plays may wait for; whoever is started first or told last is known. -/
def Regular (first : Catalog) : Waiting → Prop
  | .booting (.turn _) => True
  | .booting (.opening _) => True
  | .booting (.starting w) => w.position = 0 ∧ first = .packs w.inner.path none
  | .booting (.pumping w) => w.position = 1
  | .going (.following _) => True
  | .going (.pumping _ w) => w.position = 1
  | .tapping (.choosing _) => True
  | .tapping (.dispatching _) => True
  | .tapping (.pumping _ w) => w.position = 1
  | .saving _ => True
  | .pumping w => w.position = 1
  | _ => False

end Waiting

namespace App

/-- Calls to a player. A boot that waits for its turn goes on when no other is in flight. -/
def protocol (c : Settings) : Protocol App Call Waiting Answer where
  request := Waiting.request
  begin := begin c
  resume := resume c
  ready a w := w.request ≠ .turn || !a.booting

def received (a b : App) : List Taken :=
  ((b.navigation.transitions.unread a.taken).take (b.taken - a.taken)).filterMap fun
    | .change ch => some ⟨ch, b.hears⟩
    | .missed _ => none

def history (log : List (App × App)) : List Taken := log.flatMap fun e => received e.1 e.2

section Received

variable {a a' b : App}

theorem received_of_taken_eq (h : b.taken = a.taken) : received a b = [] := by
  simp [received, h]

theorem notMem_received (h : b.taken = a.taken) (e : Taken) : e ∉ received a b := by
  rw [received_of_taken_eq h]
  exact List.not_mem_nil

theorem received_congr (h : a'.taken = a.taken) : received a' b = received a b := by
  rw [received, received, h]

theorem told_of_mem_received {e : Taken} (h : e ∈ received a b) : e.told = b.hears := by
  obtain ⟨r, -, he⟩ := List.mem_filterMap.1 h
  cases r with
  | change ch =>
    cases he
    rfl
  | missed count => cases he

theorem received_eq {queue : List ScreenChange} (h : b.navigation.transitions.Holds a.taken queue)
    (htaken : b.taken = a.taken + queue.length) : received a b = queue.map (⟨·, b.hears⟩) := by
  have hall : (queue.map Receipt.change).take queue.length = queue.map Receipt.change := by
    rw [List.take_of_length_le (Nat.le_of_eq (List.length_map ..))]
  rw [received, h.unread_eq, htaken, Nat.add_sub_cancel_left, hall, List.filterMap_map]
  exact congrFun List.filterMap_eq_map queue

end Received

/-- How far a boot is that has its turn. Only while it waits for the crew to start, the channel may hold
its navigation. -/
def Seat (a : App) (queue : List ScreenChange) : Booting → Prop
  | .turn _ => False
  | .opening _ => a.hears = false ∧ queue = []
  | .starting _ => a.hears = false ∧ queue.length ≤ 1
  | .pumping _ => a.hears = true ∧ queue = []

inductive Seated (a : App) (queue : List ScreenChange) : Multiset Booting → Prop
  | free : a.booting = false → a.booted = a.hears → queue = [] → Seated a queue 0
  | taken (w : Booting) : a.booting = true → a.booted = false → Seat a queue w → Seated a queue {w}

section Seats

variable {a b : App} {queue : List ScreenChange} {seats : Multiset Booting} {w : Booting}

theorem Seat.length_le (h : Seat a queue w) : queue.length ≤ 1 := by
  cases w with
  | turn => exact h.elim
  | opening => rw [h.2]; exact Nat.zero_le _
  | starting => exact h.2
  | pumping => rw [h.2]; exact Nat.zero_le _

theorem Seat.queue_eq_nil (h : Seat a queue w) (hhears : a.hears = true) : queue = [] := by
  cases w with
  | turn => exact h.elim
  | opening => exact h.2
  | starting => rw [h.1] at hhears; cases hhears
  | pumping => exact h.2

theorem Seat.of_same (h : Seat a queue w) (hhears : b.hears = a.hears) : Seat b queue w := by
  cases w with
  | turn => exact h.elim
  | opening => exact ⟨hhears.trans h.1, h.2⟩
  | starting => exact ⟨hhears.trans h.1, h.2⟩
  | pumping => exact ⟨hhears.trans h.1, h.2⟩

theorem Seat.drain (h : Seat a queue w) : Seat a [] w := by
  cases w with
  | turn => exact h.elim
  | opening => exact ⟨h.1, rfl⟩
  | starting => exact ⟨h.1, Nat.zero_le _⟩
  | pumping => exact ⟨h.1, rfl⟩

namespace Seated

theorem length_le (h : Seated a queue seats) : queue.length ≤ 1 := by
  cases h with
  | free _ _ hq => rw [hq]; exact Nat.zero_le _
  | taken w _ _ hw => exact hw.length_le

theorem queue_eq_nil (h : Seated a queue seats) (hhears : a.hears = true) : queue = [] := by
  cases h with
  | free _ _ hq => exact hq
  | taken w _ _ hw => exact hw.queue_eq_nil hhears

/-- Only the length of the channel and three flags matter. -/
theorem of_same (h : Seated a queue seats) (hhears : b.hears = a.hears) (hbooted : b.booted = a.booted)
    (hbooting : b.booting = a.booting) : Seated b queue seats := by
  cases h with
  | free h₁ h₂ hq => exact .free (hbooting.trans h₁) (by rw [hbooted, hhears, h₂]) hq
  | taken w h₁ h₂ hw => exact .taken w (hbooting.trans h₁) (hbooted.trans h₂) (hw.of_same hhears)

theorem drain (h : Seated a queue seats) : Seated a [] seats := by
  cases h with
  | free h₁ h₂ => exact .free h₁ h₂ rfl
  | taken w h₁ h₂ hw => exact .taken w h₁ h₂ hw.drain

/-- Between boots nothing waits in the channel, and a player that was booted tells its stories. -/
theorem free_of_booting (h : Seated a queue seats) (hbooting : a.booting = false) :
    seats = 0 ∧ queue = [] ∧ a.booted = a.hears := by
  cases h with
  | free _ hsame hq => exact ⟨rfl, hq, hsame⟩
  | taken _ hb => rw [hbooting] at hb; cases hb

theorem booting_eq_false (h : Seated a queue seats) (hseats : seats = 0) : a.booting = false := by
  cases h with
  | free hbooting => exact hbooting
  | taken w => exact absurd hseats (Multiset.singleton_ne_zero w)

theorem seat {rest : Multiset Booting} (h : Seated a queue ({w} + rest)) :
    rest = 0 ∧ a.booting = true ∧ a.booted = false ∧ Seat a queue w := by
  generalize hseats : {w} + rest = seats at h
  rw [Multiset.singleton_add] at hseats
  cases h with
  | free => exact absurd hseats (Multiset.cons_ne_zero)
  | taken w' hbooting hbooted hw =>
    obtain ⟨rfl, hrest⟩ := (Multiset.singleton_eq_cons_iff _).1 hseats.symm
    exact ⟨hrest, hbooting, hbooted, hw⟩

end Seated
end Seats

variable (answers : (r : Request) → r.Reply → Prop) (c : Settings) (first : Catalog)

/-- What every step of every call keeps, of the player and of all that waits. -/
structure Aloft (told : Multiset Taken) (queue : List ScreenChange) (pending : Multiset Waiting)
    (a : App) : Prop where
  kept : Kept answers c first told queue (pending.bind Waiting.fits) (pending.bind Waiting.mounts) a
  regular : ∀ w ∈ pending, w.Regular first
  seated : Seated a queue (pending.bind Waiting.seats)

structure Advanced (told : Multiset Taken) (others : Multiset Waiting) (a b : App)
    (pending : Multiset Waiting) : Prop where
  aloft : ∃ queue, Aloft answers c first (↑(received a b) + told) queue (pending + others) b
  hears : a.hears = true → b.hears = true

variable {answers c first} {told : Multiset Taken} {queue : List ScreenChange}
variable {others : Multiset Waiting} {a b : App}

theorem aloft_start : Aloft answers c first 0 [] 0 (ofCatalog first) where
  kept := .start
  regular w hw := absurd hw (Multiset.notMem_zero w)
  seated := .free rfl rfl rfl

theorem aloft_singleton_add {w : Waiting} : Aloft answers c first told queue ({w} + others) a ↔
    Kept answers c first told queue (w.fits + others.bind Waiting.fits)
      (w.mounts + others.bind Waiting.mounts) a ∧
    w.Regular first ∧ (∀ w' ∈ others, w'.Regular first) ∧
    Seated a queue (w.seats + others.bind Waiting.seats) := by
  have hbind : ∀ {β : Type} (part : Waiting → Multiset β),
      ({w} + others).bind part = part w + others.bind part := fun part => by
    rw [Multiset.add_bind, Multiset.singleton_bind]
  have hregular : (∀ w' ∈ {w} + others, w'.Regular first) ↔
      w.Regular first ∧ ∀ w' ∈ others, w'.Regular first := by
    simp only [Multiset.mem_add, Multiset.mem_singleton, or_imp, forall_and, forall_eq]
  constructor
  · rintro ⟨hkept, hall, hseated⟩
    obtain ⟨hw, hothers⟩ := hregular.1 hall
    rw [hbind, hbind] at hkept
    rw [hbind] at hseated
    exact ⟨hkept, hw, hothers, hseated⟩
  · rintro ⟨hkept, hw, hothers, hseated⟩
    rw [← hbind, ← hbind] at hkept
    rw [← hbind] at hseated
    exact ⟨hkept, hregular.2 ⟨hw, hothers⟩, hseated⟩

theorem aloft_light_add {w : Waiting} (hw : w.Light) (hregular : w.Regular first) :
    Aloft answers c first told queue ({w} + others) a ↔ Aloft answers c first told queue others a := by
  rw [aloft_singleton_add, hw.fits, hw.mounts, hw.seats, zero_add, zero_add, zero_add]
  exact ⟨fun h => ⟨h.1, h.2.2.1, h.2.2.2⟩, fun h => ⟨h.kept, hregular, h.regular, h.seated⟩⟩

theorem Aloft.advanced {pending : Multiset Waiting}
    (h : Aloft answers c first told queue (pending + others) b) (htaken : b.taken = a.taken)
    (hhears : b.hears = a.hears) : Advanced answers c first told others a b pending where
  aloft := by
    refine ⟨queue, ?_⟩
    rw [received_of_taken_eq htaken, Multiset.coe_nil, zero_add]
    exact h
  hears h := hhears.trans h

end App
end Gamebook
