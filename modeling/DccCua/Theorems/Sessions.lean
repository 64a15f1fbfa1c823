import DccCua.Host.Sessions

/-! The three session maps of a connection stay balanced: their sizes are bounded together, a launch and a window
    session never share an id, an open session is never replaced, and a launch is only promoted or stopped. -/

namespace DccCua

open Checks Runs

namespace ConnectionSessions

/-- What a request can do to the sessions. -/
inductive Effect (s : ConnectionSessions) (request : SessionRequest) : ConnectionSessions → Prop where
  | same : Effect s request s
  | desktopOpened (id : String) (session : DesktopSession) (free : id ∉ s.desktops)
      (room : s.total < maxSessionsPerConnection) : Effect s request { s with desktops := s.desktops.insert id session }
  | launched (id : String) (session : LaunchSession) (window : id ∉ s.windows) (launch : id ∉ s.launches)
      (room : s.total < maxSessionsPerConnection) : Effect s request { s with launches := s.launches.insert id session }
  | windowOpened (id : String) (session : WindowSession) (window : id ∉ s.windows) (launch : s.launches[id]? = none)
      (room : s.total < maxSessionsPerConnection) :
      Effect s request { s with launches := s.launches.erase id, windows := s.windows.insert id session }
  | promoted (id : String) (session : WindowSession) (launch : LaunchSession) (window : id ∉ s.windows)
      (found : s.launches[id]? = some launch) (runtime : session.runtimeSessionId = launch.runtimeSessionId)
      (process : session.processId = launch.processId) :
      Effect s request { s with launches := s.launches.erase id, windows := s.windows.insert id session }
  | windowClosed (id : String) : Effect s request { s with windows := s.windows.erase id }
  | desktopClosed (id : String) : Effect s request { s with desktops := s.desktops.erase id }
  | reaped (expired : String → Bool) : Effect s request (s.reapIdleWindowSessions expired)
  | stopped (all : request = .interruptAll) : Effect s request start

/-! ### The effect of each request -/

theorem contains_false {α : Type} {m : Std.TreeMap String α} {id : String} (h : (!m.contains id) = true) : id ∉ m := by
  intro hmem
  rw [Std.TreeMap.contains_iff_mem.mpr hmem] at h
  cases h

theorem openDesktopSession_effect {s next : ConnectionSessions} {request : SessionRequest} {sessionId runtime : String}
    {grant : TaskGrant} {checks started : Except String Unit}
    (h : s.openDesktopSession sessionId grant checks started runtime = .ok next) : Effect s request next := by
  simp only [openDesktopSession, ensureConnectionSessionCapacity, bind_eq_ok, require_eq_ok, decide_eq_true_eq] at h
  obtain ⟨_, hfree, _, hroom, _, -, _, -, h⟩ := h
  cases h
  exact .desktopOpened _ _ (contains_false hfree) hroom

theorem launchApp_effect {s next : ConnectionSessions} {request : SessionRequest} {sessionId runtime : String} {blank : Bool}
    {grant : TaskGrant} {checks : Except String Unit} {launched : Except String (Option Nat)}
    (h : s.launchApp sessionId blank grant checks runtime launched = .ok next) : Effect s request next := by
  simp only [launchApp, ensureConnectionSessionCapacity, bind_eq_ok, require_eq_ok, decide_eq_true_eq] at h
  obtain ⟨_, -, _, hfree, _, hroom, _, -, _, -, process, -, h⟩ := h
  rw [Bool.not_or, Bool.and_eq_true] at hfree
  cases process with
  | some processId =>
    cases h
    exact .launched _ _ (contains_false hfree.1) (contains_false hfree.2) hroom
  | none =>
    cases h
    exact .same

/-- The one window that is in the scope of a grant has the process of the grant. -/
theorem resolveTarget_process {grant : TaskGrant} {rows : List WindowTarget} {target : WindowTarget} {processId : Nat}
    (h : resolveTarget grant rows = .ok target) (hprocess : grant.processId = some processId) : target.pid = processId := by
  unfold resolveTarget at h
  split at h
  · rename_i other hrows
    cases h
    have hmem : target ∈ rows.filter (scopeMatches grant) := by
      rw [hrows]
      exact List.mem_singleton_self _
    have hmatches := (List.mem_filter.mp hmem).2
    unfold scopeMatches at hmatches
    rw [hprocess, Bool.and_eq_true, Bool.and_eq_true] at hmatches
    simpa [eq_comm] using hmatches.1.1
  · cases h

theorem startGrantedWindowSession_process {grant : TaskGrant} {launch : LaunchSession} {answers : OpenAnswers}
    {target : WindowTarget} {processId : Nat} (h : startGrantedWindowSession grant (some launch) answers = .ok target)
    (hprocess : grant.processId = some processId) : target.pid = processId := by
  unfold startGrantedWindowSession at h
  split at h
  · cases h
  · simp only [bind_eq_ok] at h
    obtain ⟨other, hresolve, _, -, h⟩ := h
    cases h
    exact resolveTarget_process hresolve hprocess

theorem openSession_effect {s next : ConnectionSessions} {request : SessionRequest} {sessionId runtime : String}
    {grant : TaskGrant} {answers : OpenAnswers} (h : s.openSession sessionId grant runtime answers = .ok next) :
    Effect s request next := by
  simp only [openSession, ensureConnectionSessionCapacity, bind_eq_ok, require_eq_ok, onlyIf_eq_ok, decide_eq_true_eq] at h
  obtain ⟨_, hfree, _, -, _, hroom, h⟩ := h
  cases hlaunch : s.launches[sessionId]? with
  | none =>
    rw [hlaunch] at h hroom
    simp only [bind_eq_ok] at h
    obtain ⟨_, -, _, -, target, -, _, -, h⟩ := h
    cases h
    exact .windowOpened _ _ (contains_false hfree) hlaunch (hroom rfl)
  | some launch =>
    rw [hlaunch] at h
    simp only [bind_eq_ok] at h
    obtain ⟨bound, hbound, _, -, target, htarget, _, -, h⟩ := h
    cases h
    simp only [bindLaunchedProcess, bind_eq_ok, require_eq_ok] at hbound
    obtain ⟨_, -, _, -, hbound⟩ := hbound
    cases hbound
    exact .promoted _ _ launch (contains_false hfree) hlaunch rfl (startGrantedWindowSession_process htarget rfl)

theorem handle_effect {s next : ConnectionSessions} {request : SessionRequest} (h : s.handle request = .ok next) :
    Effect s request next := by
  cases request with
  | openDesktopSession _ _ _ _ _ => exact openDesktopSession_effect h
  | launchApp _ _ _ _ _ _ => exact launchApp_effect h
  | openSession _ _ _ _ => exact openSession_effect h
  | stopDesktopSession sessionId =>
    simp only [handle, stopDesktopSession, bind_eq_ok] at h
    obtain ⟨_, -, h⟩ := h
    cases h
    exact .desktopClosed _
  | terminateApp sessionId terminated =>
    simp only [handle, terminateApp, bind_eq_ok] at h
    obtain ⟨_, -, _, -, h⟩ := h
    cases h
    exact .windowClosed _
  | stopSession sessionId =>
    simp only [handle, stopSession, bind_eq_ok] at h
    obtain ⟨_, -, h⟩ := h
    cases h
    exact .windowClosed _
  | interruptAll =>
    cases h
    exact .stopped rfl
  | reapIdle expired =>
    cases h
    exact .reaped expired

theorem step_effect (s : ConnectionSessions) (request : SessionRequest) :
    Effect s request (sessionMachine.step s request).2 := by
  simp only [sessionMachine]
  split
  · rename_i next h
    exact handle_effect h
  · exact .same

/-! ### What every request keeps -/

/-- The sessions are within the bound, and no id has a window session and a launch. -/
structure Balanced (s : ConnectionSessions) : Prop where
  bound : s.total ≤ maxSessionsPerConnection
  apart : ∀ id, id ∈ s.windows → id ∉ s.launches

theorem balanced_start : Balanced start := by
  refine ⟨by decide, fun id hid => ?_⟩
  exact absurd hid Std.TreeMap.not_mem_emptyc

theorem mem_of_getElem? {α : Type} {m : Std.TreeMap String α} {id : String} {value : α} (h : m[id]? = some value) : id ∈ m := by
  rw [Std.TreeMap.mem_iff_isSome_getElem?, h]
  rfl

theorem size_insert_new {α : Type} {m : Std.TreeMap String α} {id : String} {value : α} (h : id ∉ m) :
    (m.insert id value).size = m.size + 1 := by
  rw [Std.TreeMap.size_insert, if_neg (mt Std.TreeMap.contains_iff_mem.mp h)]

theorem size_erase_found {α : Type} {m : Std.TreeMap String α} {id : String} (h : id ∈ m) :
    (m.erase id).size + 1 = m.size := by
  have hpos : 0 < m.size := by
    rw [Nat.pos_iff_ne_zero]
    intro hzero
    have hempty : m.isEmpty = true := by
      rw [Std.TreeMap.isEmpty_eq_size_eq_zero, hzero]
      rfl
    rw [Std.TreeMap.isEmpty_iff_forall_not_mem] at hempty
    exact hempty id h
  rw [Std.TreeMap.size_erase, if_pos (Std.TreeMap.contains_iff_mem.mpr h)]
  omega

/-- An id that moves from the launches to the windows leaves the maps apart. -/
theorem apart_moved {s : ConnectionSessions} {id : String} {session : WindowSession} (h : Balanced s) :
    ∀ other, other ∈ s.windows.insert id session → other ∉ s.launches.erase id := by
  intro other hother hlaunch
  obtain ⟨hne, hlaunch⟩ := Std.TreeMap.mem_erase.mp hlaunch
  rcases Std.TreeMap.mem_insert.mp hother with heq | hother
  · exact hne heq
  · exact h.apart other hother hlaunch

theorem balanced_effect {s t : ConnectionSessions} {request : SessionRequest} (h : Balanced s) (heff : Effect s request t) :
    Balanced t := by
  have hbound := h.bound
  unfold total at hbound
  cases heff with
  | same => exact h
  | desktopOpened id session free room =>
    refine ⟨?_, h.apart⟩
    unfold total at room ⊢
    show s.windows.size + (s.desktops.insert id session).size + s.launches.size ≤ maxSessionsPerConnection
    rw [size_insert_new free]
    omega
  | launched id session window launch room =>
    refine ⟨?_, fun other hother hlaunch => ?_⟩
    · unfold total at room ⊢
      show s.windows.size + s.desktops.size + (s.launches.insert id session).size ≤ maxSessionsPerConnection
      rw [size_insert_new launch]
      omega
    · rcases Std.TreeMap.mem_insert.mp hlaunch with heq | hlaunch
      · rw [Std.LawfulEqCmp.compare_eq_iff_eq] at heq
        exact window (heq ▸ hother)
      · exact h.apart other hother hlaunch
  | windowOpened id session window launch room =>
    refine ⟨?_, apart_moved h⟩
    have := Std.TreeMap.size_erase_le (t := s.launches) (k := id)
    unfold total at room ⊢
    show (s.windows.insert id session).size + s.desktops.size + (s.launches.erase id).size ≤ maxSessionsPerConnection
    rw [size_insert_new window]
    omega
  | promoted id session launch window found runtime process =>
    refine ⟨?_, apart_moved h⟩
    have := size_erase_found (mem_of_getElem? found)
    unfold total
    show (s.windows.insert id session).size + s.desktops.size + (s.launches.erase id).size ≤ maxSessionsPerConnection
    rw [size_insert_new window]
    omega
  | windowClosed id =>
    refine ⟨?_, fun other hother => h.apart other (Std.TreeMap.mem_erase.mp hother).2⟩
    have := Std.TreeMap.size_erase_le (t := s.windows) (k := id)
    unfold total
    show (s.windows.erase id).size + s.desktops.size + s.launches.size ≤ maxSessionsPerConnection
    omega
  | desktopClosed id =>
    refine ⟨?_, h.apart⟩
    have := Std.TreeMap.size_erase_le (t := s.desktops) (k := id)
    unfold total
    show s.windows.size + (s.desktops.erase id).size + s.launches.size ≤ maxSessionsPerConnection
    omega
  | reaped expired =>
    refine ⟨?_, fun other hother => h.apart other (Std.TreeMap.mem_of_mem_filter hother)⟩
    have := Std.TreeMap.size_filter_le_size (t := s.windows) (f := fun id _ => !expired id)
    unfold total reapIdleWindowSessions
    show (s.windows.filter fun id _ => !expired id).size + s.desktops.size + s.launches.size ≤ maxSessionsPerConnection
    omega
  | stopped all => exact balanced_start

/-- A map after an insertion under a new id: what was there is still there. -/
theorem getElem?_insert_new {α : Type} {m : Std.TreeMap String α} {id other : String} {value found : α} (h : id ∉ m)
    (hfound : m[other]? = some found) : (m.insert id value)[other]? = some found := by
  rw [Std.TreeMap.getElem?_insert, if_neg, hfound]
  intro heq
  rw [Std.LawfulEqCmp.compare_eq_iff_eq] at heq
  exact h (heq ▸ mem_of_getElem? hfound)

/-- A map after a removal: what was there is still there, or gone. -/
theorem getElem?_erase_old {α : Type} {m : Std.TreeMap String α} {id other : String} {found : α}
    (hfound : m[other]? = some found) : (m.erase id)[other]? = some found ∨ (m.erase id)[other]? = none := by
  rw [Std.TreeMap.getElem?_erase]
  split
  · exact Or.inr rfl
  · exact Or.inl hfound

/-- An open window session stays as it is until it is closed. -/
theorem window_kept {s t : ConnectionSessions} {request : SessionRequest} {id : String} {session : WindowSession}
    (heff : Effect s request t) (h : s.windows[id]? = some session) :
    t.windows[id]? = some session ∨ t.windows[id]? = none := by
  cases heff with
  | same => exact Or.inl h
  | desktopOpened _ _ _ _ => exact Or.inl h
  | launched _ _ _ _ _ => exact Or.inl h
  | windowOpened _ _ window _ _ => exact Or.inl (getElem?_insert_new window h)
  | promoted _ _ _ window _ _ _ => exact Or.inl (getElem?_insert_new window h)
  | windowClosed _ => exact getElem?_erase_old h
  | desktopClosed _ => exact Or.inl h
  | reaped expired =>
    unfold reapIdleWindowSessions
    rw [Std.TreeMap.getElem?_filter', h, Option.filter_some]
    split
    · exact Or.inl rfl
    · exact Or.inr rfl
  | stopped _ => exact Or.inr Std.TreeMap.getElem?_emptyc

theorem desktop_kept {s t : ConnectionSessions} {request : SessionRequest} {id : String} {session : DesktopSession}
    (heff : Effect s request t) (h : s.desktops[id]? = some session) :
    t.desktops[id]? = some session ∨ t.desktops[id]? = none := by
  cases heff with
  | desktopOpened _ _ free _ => exact Or.inl (getElem?_insert_new free h)
  | desktopClosed _ => exact getElem?_erase_old h
  | stopped _ => exact Or.inr Std.TreeMap.getElem?_emptyc
  | same => exact Or.inl h
  | launched _ _ _ _ _ => exact Or.inl h
  | windowOpened _ _ _ _ _ => exact Or.inl h
  | promoted _ _ _ _ _ _ _ => exact Or.inl h
  | windowClosed _ => exact Or.inl h
  | reaped _ => exact Or.inl h

/-- A launch stays as it is until it is promoted or stopped. -/
theorem launch_kept {s t : ConnectionSessions} {request : SessionRequest} {id : String} {launch : LaunchSession}
    (heff : Effect s request t) (h : s.launches[id]? = some launch) :
    t.launches[id]? = some launch ∨ request = .interruptAll ∨ (t.launches[id]? = none ∧ ∃ session,
      t.windows[id]? = some session ∧ session.runtimeSessionId = launch.runtimeSessionId ∧
        session.processId = launch.processId) := by
  cases heff with
  | same => exact Or.inl h
  | desktopOpened _ _ _ _ => exact Or.inl h
  | launched _ _ _ free _ => exact Or.inl (getElem?_insert_new free h)
  | windowOpened other session window unlaunched room =>
    left
    show (s.launches.erase other)[id]? = some launch
    rw [Std.TreeMap.getElem?_erase, if_neg, h]
    intro heq
    rw [Std.LawfulEqCmp.compare_eq_iff_eq] at heq
    rw [heq, h] at unlaunched
    cases unlaunched
  | promoted other session promoted window found runtime process =>
    by_cases heq : other = id
    · subst heq
      rw [h] at found
      cases found
      refine Or.inr (Or.inr ⟨?_, session, ?_, runtime, process⟩)
      · exact Std.TreeMap.getElem?_erase_self
      · exact Std.TreeMap.getElem?_insert_self
    · left
      show (s.launches.erase other)[id]? = some launch
      rw [Std.TreeMap.getElem?_erase, if_neg, h]
      rw [Std.LawfulEqCmp.compare_eq_iff_eq]
      exact heq
  | windowClosed _ => exact Or.inl h
  | desktopClosed _ => exact Or.inl h
  | reaped _ => exact Or.inl h
  | stopped all => exact Or.inr (Or.inl all)

end ConnectionSessions

/-- Over every sequence of requests: the sessions are bounded together, no id is a window session and a launch, an open
    session is never replaced, and a launch disappears only by its promotion or by the stop of everything. -/
theorem sessions_balanced (requests : List SessionRequest) :
    ∀ c ∈ sessionMachine.trace ConnectionSessions.start requests,
      c.after.total ≤ maxSessionsPerConnection ∧
      (∀ id, ¬(id ∈ c.after.windows ∧ id ∈ c.after.launches)) ∧
      (∀ (id : String) (session : WindowSession), c.before.windows[id]? = some session →
        c.after.windows[id]? = some session ∨ c.after.windows[id]? = none) ∧
      (∀ (id : String) (session : DesktopSession), c.before.desktops[id]? = some session →
        c.after.desktops[id]? = some session ∨ c.after.desktops[id]? = none) ∧
      (∀ (id : String) (launch : LaunchSession), c.before.launches[id]? = some launch →
        c.after.launches[id]? = some launch ∨ c.input = .interruptAll ∨
          (c.after.launches[id]? = none ∧ ∃ session : WindowSession, c.after.windows[id]? = some session ∧
            session.runtimeSessionId = launch.runtimeSessionId ∧ session.processId = launch.processId)) := by
  intro c hc
  have hbalanced := Machine.inv_before (fun s request h => ConnectionSessions.balanced_effect h
    (ConnectionSessions.step_effect s request)) ConnectionSessions.balanced_start hc
  have heff := ConnectionSessions.step_effect c.before c.input
  rw [Machine.eq_call_of_mem hc]
  have hafter := ConnectionSessions.balanced_effect hbalanced heff
  refine ⟨hafter.bound, fun id hboth => hafter.apart id hboth.1 hboth.2, ?_, ?_, ?_⟩
  · intro id session h
    exact ConnectionSessions.window_kept heff h
  · intro id session h
    exact ConnectionSessions.desktop_kept heff h
  · intro id launch h
    exact ConnectionSessions.launch_kept heff h

/-- A launch, a desktop session, and the window session that the launch is promoted to. -/
def sampleRequests : List SessionRequest :=
  let grant : TaskGrant := ⟨"grant", "Editor", none, none, none, false, true⟩
  [.launchApp "s" false grant (.ok ()) "runtime-1" (.ok (some 7)), .openDesktopSession "d" grant (.ok ()) (.ok ()) "runtime-2",
    .openSession "s" grant "runtime-3" ⟨.ok (), .ok (), [⟨7, 9, "Editor"⟩, ⟨8, 9, "Other"⟩], .ok (), .error "unused", .ok ()⟩]

theorem sessions_balanced_promotion :
    (sessionMachine.trace ConnectionSessions.start sampleRequests).map (fun c => (c.after.windows.size, c.after.launches.size)) =
      [(0, 1), (0, 1), (1, 0)] ∧
    ∀ c ∈ sessionMachine.trace ConnectionSessions.start sampleRequests, c.after.total ≤ maxSessionsPerConnection ∧
      ∀ id, ¬(id ∈ c.after.windows ∧ id ∈ c.after.launches) :=
  ⟨by decide, fun c hc => ⟨(sessions_balanced sampleRequests c hc).1, (sessions_balanced sampleRequests c hc).2.1⟩⟩

end DccCua
