import Bigstar.Netplay.PacketBridge

/-!
# The packet store

What a push does to the packets that are kept, and what the searches find: whatever their settings,
the newest packet within their reach.
-/

namespace Bigstar.Netplay.PacketBridge

open OrderedMap LittleEndian

namespace LiveReplayPackets

variable {m : LiveReplayPackets} {player : Nat} {packet : List UInt8}

/-! ## A push -/

/-- A push drops what is more than 256 ticks older, or nothing. -/
theorem exists_getElem?_push (m : LiveReplayPackets) (packet : List UInt8) (hplayer : player ≤ 1) :
    ∃ cut entry, cut ≤ packetTick packet ∧ (0 < cut → cut + 256 = packetTick packet) ∧
      entry =
        { packet := Function.update (m[packetTick packet]?.getD {}).packet player (some packet) } ∧
      ∀ t, (m.push player packet)[t]? =
        if cut ≤ t then if packetTick packet = t then some entry else m[t]? else none := by
  have hnot : ¬ 1 < player := by omega
  unfold push
  rw [if_neg hnot]
  dsimp only
  split
  · by_cases htick : 256 < packetTick packet
    · refine ⟨packetTick packet - 256, _, by omega, by omega, rfl, fun t => ?_⟩
      rw [if_pos htick, getElem?_eraseBelow, getElem?_insert_eq]
    · refine ⟨0, _, Nat.zero_le _, by omega, rfl, fun t => ?_⟩
      rw [if_neg htick, getElem?_eraseBelow, getElem?_insert_eq]
  · refine ⟨0, _, Nat.zero_le _, by omega, rfl, fun t => ?_⟩
    rw [if_pos (Nat.zero_le t), getElem?_insert_eq]

/-- A push keeps everything down to some tick. -/
theorem exists_packetAt_push (m : LiveReplayPackets) (packet : List UInt8) (hplayer : player ≤ 1) :
    ∃ cut, cut ≤ packetTick packet ∧ (0 < cut → cut + 256 = packetTick packet) ∧
      ∀ q t, (m.push player packet).packetAt q t =
        if cut ≤ t then
          if packetTick packet = t ∧ player = q then some packet else m.packetAt q t
        else none := by
  obtain ⟨cut, entry, hcut, hwidth, rfl, hget⟩ := exists_getElem?_push m packet hplayer
  refine ⟨cut, hcut, hwidth, fun q t => ?_⟩
  unfold packetAt
  rw [hget t]
  by_cases ht : cut ≤ t
  · rw [if_pos ht, if_pos ht]
    by_cases htick : packetTick packet = t
    · subst htick
      rw [if_pos rfl, Option.bind_some]
      dsimp only
      by_cases hq : player = q
      · subst hq
        rw [if_pos ⟨rfl, rfl⟩, Function.update_self]
      · rw [if_neg (fun h => hq h.2), Function.update_of_ne (Ne.symm hq)]
        cases m[packetTick packet]? with
        | none => rfl
        | some old => rfl
    · rw [if_neg htick, if_neg (fun h => htick h.1)]
  · rw [if_neg ht, if_neg ht]
    rfl

theorem push_of_lt (hplayer : 1 < player) : m.push player packet = m := by
  unfold push
  rw [if_pos hplayer]

/-- What is in the store was there before, or has been pushed. -/
theorem packetAt_of_push {q t : Nat} {found : List UInt8}
    (h : (m.push player packet).packetAt q t = some found) :
    m.packetAt q t = some found ∨ q = player ∧ t = packetTick packet ∧ found = packet := by
  by_cases hplayer : 1 < player
  · rw [push_of_lt hplayer] at h
    exact Or.inl h
  · obtain ⟨cut, -, -, hget⟩ := exists_packetAt_push m packet (Nat.not_lt.mp hplayer)
    rw [hget] at h
    split at h
    · split at h
      · next heq => exact Or.inr ⟨heq.2.symm, heq.1.symm, (Option.some.inj h).symm⟩
      · exact Or.inl h
    · cases h

theorem packetAt_push_self (hplayer : player ≤ 1) :
    (m.push player packet).packetAt player (packetTick packet) = some packet := by
  obtain ⟨cut, hcut, -, hget⟩ := exists_packetAt_push m packet hplayer
  rw [hget, if_pos hcut, if_pos ⟨rfl, rfl⟩]

/-- The store has a packet that is more than 256 ticks newer. -/
def Superseded (m : LiveReplayPackets) (t : Nat) : Prop :=
  ∃ t' entry, m[t']? = some entry ∧ t + 256 < t'

/-- A packet that is in the store stays there until it is replaced or much newer ones have come. -/
theorem packetAt_push_or {q t : Nat} {found : List UInt8} (h : m.packetAt q t = some found)
    (hother : ¬ (packetTick packet = t ∧ player = q)) :
    (m.push player packet).packetAt q t = some found ∨ Superseded (m.push player packet) t := by
  by_cases hplayer : 1 < player
  · rw [push_of_lt hplayer]
    exact Or.inl h
  · have hle := Nat.not_lt.mp hplayer
    obtain ⟨cut, hcut, hwidth, hget⟩ := exists_packetAt_push m packet hle
    by_cases ht : cut ≤ t
    · left
      rw [hget, if_pos ht, if_neg hother]
      exact h
    · right
      obtain ⟨cut', entry, hcut', -, -, hentry⟩ := exists_getElem?_push m packet hle
      refine ⟨packetTick packet, entry, ?_, ?_⟩
      · rw [hentry, if_pos hcut', if_pos rfl]
      · have := hwidth (by omega)
        omega

/-- A superseded tick stays so. -/
theorem superseded_push {t : Nat} (h : Superseded m t) : Superseded (m.push player packet) t := by
  by_cases hplayer : 1 < player
  · rw [push_of_lt hplayer]
    exact h
  · obtain ⟨t', old, hold, hlt⟩ := h
    obtain ⟨cut, entry, hcut, hwidth, -, hentry⟩ :=
      exists_getElem?_push m packet (Nat.not_lt.mp hplayer)
    by_cases ht : cut ≤ t'
    · by_cases heq : packetTick packet = t'
      · exact ⟨t', entry, by rw [hentry, if_pos ht, if_pos heq], hlt⟩
      · exact ⟨t', old, by rw [hentry, if_pos ht, if_neg heq, hold], hlt⟩
    · -- the newer packet has gone in favour of one that is newer still
      refine ⟨packetTick packet, entry, by rw [hentry, if_pos hcut, if_pos rfl], ?_⟩
      omega

/-! ## Ticks of 16 bits -/

theorem packetTick_lt (packet : List UInt8) : packetTick packet < 2 ^ 16 := readLE_lt 2 packet 0

/-- All ticks have 16 bits. -/
def TicksFit (m : LiveReplayPackets) : Prop := ∀ t entry, m[t]? = some entry → t < 2 ^ 16

theorem ticksFit_empty : TicksFit ∅ := by
  intro t entry h
  simp at h

theorem ticksFit_push (h : TicksFit m) : TicksFit (m.push player packet) := by
  by_cases hplayer : 1 < player
  · rw [push_of_lt hplayer]
    exact h
  · obtain ⟨cut, entry, -, -, -, hentry⟩ :=
      exists_getElem?_push m packet (Nat.not_lt.mp hplayer)
    intro t found hfound
    rw [hentry] at hfound
    split at hfound
    · split at hfound
      · next heq =>
        rw [← heq]
        exact packetTick_lt packet
      · exact h t found hfound
    · cases hfound

/-- The tick that is `age` ticks before. -/
def tickBefore (tick age : Nat) : Nat := (tick + 2 ^ 32 - age) % 0x10000

/-- The tick that has a given age. -/
theorem ageOf_eq_iff {tick t age : Nat} (ht : t < 2 ^ 16) (hage : age < 2 ^ 16) :
    ageOf tick t = age ↔ t = tickBefore tick age := by
  unfold ageOf tickBefore
  omega

theorem ageOf_lt (tick t : Nat) : ageOf tick t < 2 ^ 16 := Nat.mod_lt _ (by decide)

theorem packetAt_eq_some {q t : Nat} {found : List UInt8} :
    m.packetAt q t = some found ↔ ∃ entry, m[t]? = some entry ∧ entry.packet q = some found := by
  unfold packetAt
  exact Option.bind_eq_some_iff

/-! ## The scan over all packets -/

section Scan

variable {q tick limit : Nat}

/-- An entry that the scan may choose, with its packet. -/
structure Candidate (q tick limit : Nat) (e : Nat × NSMLPacketReplayEntry) (found : List UInt8) :
    Prop where
  packet : e.2.packet q = some found
  pos : 0 < ageOf tick e.1
  near : ageOf tick e.1 ≤ 0x7FFF
  within : ageOf tick e.1 ≤ limit

/-- What the scan remembers of the entries that it has seen. -/
def Best (q tick limit : Nat) (seen : List (Nat × NSMLPacketReplayEntry))
    (best : Nat × Option (List UInt8)) : Prop :=
  (∀ e ∈ seen, ∀ found, Candidate q tick limit e found → best.1 ≤ ageOf tick e.1) ∧
    match best.2 with
    | none => best.1 = 0x8000
    | some found => ∃ e ∈ seen, Candidate q tick limit e found ∧ ageOf tick e.1 = best.1

/-- One round keeps the newest packet so far. -/
theorem best_considerEntry {seen : List (Nat × NSMLPacketReplayEntry)}
    {best : Nat × Option (List UInt8)}
    (h : Best q tick limit seen best) (e : Nat × NSMLPacketReplayEntry) :
    Best q tick limit (seen ++ [e]) (considerEntry q tick limit best e) := by
  obtain ⟨hleast, hbest⟩ := h
  -- where the round changes nothing, the new entry is no candidate, or no better one
  have hkeep : (∀ found, Candidate q tick limit e found → best.1 ≤ ageOf tick e.1) →
      Best q tick limit (seen ++ [e]) best := by
    intro hno
    refine ⟨?_, ?_⟩
    · intro x hx found hcandidate
      rcases List.mem_append.mp hx with hx | hx
      · exact hleast x hx found hcandidate
      · rw [List.mem_singleton.mp hx] at hcandidate ⊢
        exact hno found hcandidate
    · revert hbest
      cases best.2 with
      | none => exact id
      | some found =>
        rintro ⟨x, hx, hcandidate⟩
        exact ⟨x, List.mem_append_left _ hx, hcandidate⟩
  unfold considerEntry
  cases hpacket : e.2.packet q with
  | none =>
    apply hkeep
    intro found hcandidate
    rw [hcandidate.packet] at hpacket
    cases hpacket
  | some packet =>
    dsimp only
    by_cases hskip : ageOf tick e.1 = 0 ∨ 0x7FFF < ageOf tick e.1 ∨ best.1 ≤ ageOf tick e.1
    · rw [if_pos hskip]
      apply hkeep
      intro found hcandidate
      have hpos := hcandidate.pos
      have hnear := hcandidate.near
      omega
    · rw [if_neg hskip]
      by_cases hlimit : limit < ageOf tick e.1
      · rw [if_pos hlimit]
        apply hkeep
        intro found hcandidate
        have hwithin := hcandidate.within
        omega
      · rw [if_neg hlimit]
        refine ⟨?_, e, List.mem_append_right _ (List.mem_singleton_self e),
          ⟨hpacket, by omega, by omega, by omega⟩, rfl⟩
        intro x hx found hcandidate
        rcases List.mem_append.mp hx with hx | hx
        · have := hleast x hx found hcandidate
          dsimp only
          omega
        · rw [List.mem_singleton.mp hx]

theorem best_foldl (rest seen : List (Nat × NSMLPacketReplayEntry))
    (best : Nat × Option (List UInt8)) (h : Best q tick limit seen best) :
    Best q tick limit (seen ++ rest) (rest.foldl (considerEntry q tick limit) best) := by
  induction rest generalizing seen best with
  | nil =>
    rw [List.append_nil]
    exact h
  | cons e rest ih =>
    have hstep := ih (seen ++ [e]) _ (best_considerEntry h e)
    rw [List.append_assoc] at hstep
    exact hstep

/-- The loop finds the newest packet within the limit. -/
theorem best_latestBefore (q tick limit : Nat) (m : LiveReplayPackets) :
    Best q tick limit m.toList (m.toList.foldl (considerEntry q tick limit) (0x8000, none)) := by
  have hstart : Best q tick limit [] (0x8000, none) := ⟨by simp, rfl⟩
  exact best_foldl m.toList [] _ hstart

theorem mem_toList_iff {e : Nat × NSMLPacketReplayEntry} : e ∈ m.toList ↔ m[e.1]? = some e.2 :=
  Std.ExtTreeMap.mem_toList_iff_getElem?_eq_some

/-- The first packet on the way back from a tick, within a reach. -/
def newestBefore (m : LiveReplayPackets) (q tick reach : Nat) : Option (List UInt8) :=
  (List.range' 1 reach).findSome? fun age => m.packetAt q (tickBefore tick age)

/-- So does the walk back. -/
theorem walkBack_eq (m : LiveReplayPackets) (q tick window : Nat) :
    m.walkBack q tick window = newestBefore m q tick (min window 4096) := rfl

theorem newestBefore_eq_none {reach : Nat} :
    newestBefore m q tick reach = none ↔
      ∀ age, 0 < age → age ≤ reach → m.packetAt q (tickBefore tick age) = none := by
  unfold newestBefore
  rw [List.findSome?_eq_none_iff]
  constructor
  · intro h age hpos hle
    exact h age (List.mem_range'_1.mpr (by omega))
  · intro h age hage
    rw [List.mem_range'_1] at hage
    exact h age (by omega) (by omega)

theorem findSome?_range'_eq_some {α : Type} {f : Nat → Option α} {start age n : Nat} {found : α}
    (hstart : start ≤ age) (hend : age < start + n) (hfound : f age = some found)
    (hnone : ∀ a, start ≤ a → a < age → f a = none) :
    (List.range' start n).findSome? f = some found := by
  induction n generalizing start with
  | zero => omega
  | succ n ih =>
    rw [List.range'_succ, List.findSome?_cons]
    by_cases heq : start = age
    · rw [heq, hfound]
    · rw [hnone start (Nat.le_refl start) (by omega)]
      exact ih (by omega) (by omega) fun a ha => hnone a (by omega)

/-- The first age with a packet is the newest. -/
theorem newestBefore_eq_some {reach age : Nat} {found : List UInt8}
    (hpos : 0 < age) (hle : age ≤ reach) (hfound : m.packetAt q (tickBefore tick age) = some found)
    (hnone : ∀ a, 0 < a → a < age → m.packetAt q (tickBefore tick a) = none) :
    newestBefore m q tick reach = some found :=
  findSome?_range'_eq_some (f := fun a => m.packetAt q (tickBefore tick a)) hpos (by omega) hfound
    fun a ha => hnone a ha

/-- A packet on the way back is a candidate of the scan. -/
theorem exists_candidate (limit : Nat) (hticks : TicksFit m) {age : Nat}
    {found : List UInt8} (hpos : 0 < age) (hnear : age ≤ 0x7FFF) (hlimit : age ≤ limit)
    (hfound : m.packetAt q (tickBefore tick age) = some found) :
    ∃ e ∈ m.toList, Candidate q tick limit e found ∧ ageOf tick e.1 = age := by
  obtain ⟨entry, hentry, hpacket⟩ := packetAt_eq_some.mp hfound
  have hage : ageOf tick (tickBefore tick age) = age :=
    (ageOf_eq_iff (hticks _ _ hentry) (by omega)).mpr rfl
  refine ⟨(tickBefore tick age, entry), mem_toList_iff.mpr hentry, ⟨hpacket, ?_, ?_, ?_⟩, hage⟩
  · rw [hage]
    exact hpos
  · rw [hage]
    exact hnear
  · rw [hage]
    exact hlimit

/-- The scan over all packets finds what a walk back from the tick finds. -/
theorem latestBefore_eq (hticks : TicksFit m) :
    m.latestBefore q tick limit = newestBefore m q tick (min limit 0x7FFF) := by
  obtain ⟨hleast, hbest⟩ := best_latestBefore q tick limit m
  unfold latestBefore
  generalize m.toList.foldl (considerEntry q tick limit) (0x8000, none) = best at hleast hbest
  obtain ⟨least, choice⟩ := best
  cases choice with
  | none =>
    change least = 0x8000 at hbest
    subst hbest
    refine (newestBefore_eq_none.mpr ?_).symm
    intro age hpos hle
    rw [Nat.le_min] at hle
    cases hfound : m.packetAt q (tickBefore tick age) with
    | none => rfl
    | some found =>
      obtain ⟨e, he, hcandidate, hage⟩ := exists_candidate limit hticks hpos hle.2 hle.1 hfound
      have hfar := hleast e he found hcandidate
      have hnear := hcandidate.near
      dsimp only at hfar
      omega
  | some found =>
    obtain ⟨e, he, hcandidate, hage⟩ := hbest
    dsimp only at hage hleast ⊢
    have hentry := mem_toList_iff.mp he
    have htick : e.1 = tickBefore tick (ageOf tick e.1) :=
      (ageOf_eq_iff (hticks _ _ hentry) (ageOf_lt _ _)).mp rfl
    refine (newestBefore_eq_some hcandidate.pos
      (Nat.le_min.mpr ⟨hcandidate.within, hcandidate.near⟩)
      ?_ ?_).symm
    · rw [← htick]
      exact packetAt_eq_some.mpr ⟨e.2, hentry, hcandidate.packet⟩
    · intro a hpos hlt
      have hnear := hcandidate.near
      have hwithin := hcandidate.within
      cases hnewer : m.packetAt q (tickBefore tick a) with
      | none => rfl
      | some newer =>
        obtain ⟨x, hx, hx', hage'⟩ :=
          exists_candidate limit hticks hpos (by omega) (by omega) hnewer
        have := hleast x hx newer hx'
        omega

/-- A walk that reaches further finds the same, if it finds anything near enough. -/
theorem newestBefore_or {near far : Nat} (hle : near ≤ far) :
    (newestBefore m q tick far).or (newestBefore m q tick near) = newestBefore m q tick far := by
  cases hfar : newestBefore m q tick far with
  | some found => rfl
  | none =>
    rw [Option.none_or]
    rw [newestBefore_eq_none] at hfar ⊢
    intro age hpos hage
    exact hfar age hpos (by omega)

end Scan

/-! ## The search -/

/-- How far back a search looks. -/
def reach (latestBeforeEnabled : Bool) (fallbackWindow : Nat) : Nat :=
  if fallbackWindow = 0 then if latestBeforeEnabled then 0x7FFF else 0
  else min fallbackWindow (if latestBeforeEnabled then 0x7FFF else 4096)

/-- A search finds the packet of the tick, or else the newest one before it within its reach. -/
theorem find_eq (hticks : TicksFit m) (latestBeforeEnabled : Bool) (fallbackWindow q tick : Nat)
    (hq : q ≤ 1) :
    m.find latestBeforeEnabled fallbackWindow q tick =
      (m.packetAt q tick).or (newestBefore m q tick
        (reach latestBeforeEnabled fallbackWindow)) := by
  unfold find reach
  rw [if_neg (Nat.not_lt.mpr hq)]
  congr 1
  by_cases hwindow : fallbackWindow = 0
  · rw [if_pos hwindow, if_pos hwindow]
    cases latestBeforeEnabled with
    | true =>
      rw [if_pos rfl, if_pos rfl, latestBefore_eq hticks]
      rfl
    | false => rfl
  · rw [if_neg hwindow, if_neg hwindow, walkBack_eq]
    cases latestBeforeEnabled with
    | true =>
      rw [if_pos rfl, if_pos rfl, latestBefore_eq hticks]
      exact newestBefore_or (by omega)
    | false => rfl

/-- What holds of an empty store and is kept by every push holds of every store. -/
theorem ofPushes_induction {P : LiveReplayPackets → Prop} (hempty : P ∅)
    (hpush : ∀ m player packet, P m → P (m.push player packet)) (pushes : List (Nat × List UInt8)) :
    P (ofPushes pushes) := by
  unfold ofPushes
  induction pushes using List.reverseRecOn with
  | nil => exact hempty
  | append_singleton pushes e ih =>
    rw [List.foldl_append]
    exact hpush _ _ _ ih

theorem ticksFit_ofPushes (pushes : List (Nat × List UInt8)) : TicksFit (ofPushes pushes) :=
  ofPushes_induction ticksFit_empty (fun _ _ _ h => ticksFit_push h) pushes

/-- There are only two players. -/
theorem packetAt_ofPushes_of_lt (pushes : List (Nat × List UInt8)) {q : Nat}
    (hq : 1 < q) (t : Nat) :
    (ofPushes pushes).packetAt q t = none := by
  refine ofPushes_induction (P := fun m => m.packetAt q t = none) ?_ ?_ pushes
  · unfold packetAt
    simp
  · intro m player packet h
    by_cases hplayer : 1 < player
    · rw [push_of_lt hplayer]
      exact h
    · cases hfound : (m.push player packet).packetAt q t with
      | none => rfl
      | some found =>
        rcases packetAt_of_push hfound with hold | ⟨hnew, -, -⟩
        · rw [h] at hold
          cases hold
        · exact absurd hq (hnew ▸ hplayer)

end LiveReplayPackets

/-- In the store that any pushes have left behind, a search of any settings finds the packet of the
tick that is asked for, or else the newest packet before it that is within reach. -/
theorem LiveReplayPackets.search_finds_newest (pushes : List (Nat × List UInt8))
    (latestBeforeEnabled : Bool) (fallbackWindow q tick : Nat) :
    (ofPushes pushes).find latestBeforeEnabled fallbackWindow q tick =
      ((ofPushes pushes).packetAt q tick).or
        (newestBefore (ofPushes pushes) q tick (reach latestBeforeEnabled fallbackWindow)) := by
  by_cases hq : q ≤ 1
  · exact find_eq (ticksFit_ofPushes pushes) latestBeforeEnabled fallbackWindow q tick hq
  · have hlt : 1 < q := Nat.lt_of_not_le hq
    have hnewest : newestBefore (ofPushes pushes) q tick
      (reach latestBeforeEnabled fallbackWindow) =
        none := by
      rw [newestBefore_eq_none]
      intro age _ _
      exact packetAt_ofPushes_of_lt pushes hlt _
    unfold find
    rw [if_pos hlt, packetAt_ofPushes_of_lt pushes hlt, hnewest]
    rfl

end Bigstar.Netplay.PacketBridge
