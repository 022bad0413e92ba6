import Feo.Construction.Timestamp
import Feo.Proof.Socket.Codec

namespace Feo

/-- Both clocks of a host advance with the true time from origins of their own. -/
structure Host where
  monotonicOrigin : Int
  wallOffset : Int

namespace Host

def ReadsInstant (host : Host) (moment : Int) (instant : Instant) : Prop :=
  instant.nanos = moment - host.monotonicOrigin

def ReadsSystime (host : Host) (moment : Int) (systime : SystemTime) : Prop :=
  systime.nanos = moment + host.wallOffset

/-- The three readings of a try follow each other. -/
def Performs (host : Host) (reading : ClockTry) : Prop :=
  ∃ first second third, first ≤ second ∧ second ≤ third ∧
    host.ReadsInstant first reading.instant ∧ host.ReadsSystime second reading.systime ∧
    host.ReadsInstant third reading.instant2

/-- The system time is read less than the maximal delay after the instant. -/
def ReadsInfo (host : Host) (moment : Int) (info : TimeInfo) : Prop :=
  host.ReadsInstant moment info.instant ∧ ∃ second, moment ≤ second ∧
    second < moment + maxDelay ∧ host.ReadsSystime second info.systime

/-- A successful search for the current time has read both clocks within the maximal delay. -/
theorem timeInfoNow_reads (host : Host) {tries : Nat → ClockTry}
    (performed : ∀ index, host.Performs (tries index)) {info : TimeInfo}
    (found : timeInfoNow tries = .ok info) : ∃ moment, host.ReadsInfo moment info := by
  have loop : ∀ remaining index, timeInfoNow.attempt tries remaining index = .ok info →
      ∃ moment, host.ReadsInfo moment info := by
    intro remaining
    induction remaining with
    | zero => exact fun index impossible => nomatch impossible
    | succ remaining ih =>
        intro index result
        rw [timeInfoNow.attempt] at result
        split at result
        · next close =>
            cases result
            obtain ⟨first, second, third, before, after, instant, systime, instant2⟩ :=
              performed index
            refine ⟨first, instant, second, before, ?_, systime⟩
            unfold ReadsInstant at instant instant2
            unfold Reading.saturatingDurationSince at close
            simp only at close
            omega
        · exact ih (index + 1) result
  exact loop maxTries 0 found

/-- The startup info of a process has read both clocks within the maximal delay. -/
theorem startup_reads (host : Host) {tries : Nat → ClockTry}
    (performed : ∀ index, host.Performs (tries index)) {info : TimeInfo}
    (started : initializeStartupTime none tries = .ok (some info)) :
    ∃ moment, host.ReadsInfo moment info := by
  rw [initializeStartupTime] at started
  cases found : timeInfoNow tries with
  | error message =>
      rw [found] at started
      exact nomatch started
  | ok now =>
      rw [found] at started
      cases started
      exact host.timeInfoNow_reads performed found

end Host

/-- The startup time of the primary passes the wire unchanged. -/
theorem startupSync_received (info : SyncInfo) (small : info.sinceEpoch.nanos ≤ 2 ^ 64 - 1) :
    ProtocolSignal.tryDecode (ProtocolSignal.core (.startupSync info)).encode =
      .ok (some (.core (.startupSync info),
        (ProtocolSignal.core (.startupSync info)).encode.length)) := by
  have known : (ProtocolSignal.core (.startupSync info)).Known := nofun
  have short : (ProtocolSignal.core (.startupSync info)).Small := by
    intro duration carried
    cases carried
    exact small
  have frame := (ProtocolSignal.encode_isFrame _ known short).complete []
  rw [List.append_nil] at frame
  exact frame

/-- A startup time after the epoch is announced as the duration since the epoch. -/
theorem syncInfo_eq {info : TimeInfo} (early : 0 ≤ info.systime.nanos) :
    ∃ announced, syncInfo (some info) = .ok announced ∧
      (announced.sinceEpoch.nanos : Int) = info.systime.nanos := by
  have ordered : Reading.unixEpoch.nanos ≤ info.systime.nanos := early
  refine ⟨⟨info.systime.saturatingDurationSince Reading.unixEpoch⟩, ?_, ?_⟩
  · rw [syncInfo, Reading.durationSince, if_pos ordered]
  · simp only [Reading.saturatingDurationSince, Reading.unixEpoch]
    omega

/-- A small duration after the epoch is a system time. -/
theorem unixEpoch_add {duration : Duration} (small : duration.nanos ≤ 2 ^ 64 - 1) :
    ∃ time, Reading.unixEpoch.add duration = .ok time ∧ time.nanos = duration.nanos := by
  have fits : ¬ 9223372036854775808000000000 ≤ Reading.unixEpoch.nanos + duration.nanos := by
    simp only [Reading.unixEpoch]
    omega
  refine ⟨_, dif_neg fits, ?_⟩
  simp only [Reading.unixEpoch, Int.zero_add]

/-- The subtraction yields the earlier instant when the clock represents it. -/
theorem checkedSub_cases (earliest : Int) (reading : Instant) (duration : Duration) :
    (∃ earlier, reading.checkedSub earliest duration = some earlier ∧
        earlier.nanos = reading.nanos - duration.nanos) ∨
      reading.checkedSub earliest duration = none ∧
        ¬ Reading.Representable earliest (reading.nanos - duration.nanos) := by
  by_cases inside : Reading.Representable earliest (reading.nanos - duration.nanos)
  · exact .inl ⟨_, dif_pos inside, rfl⟩
  · exact .inr ⟨dif_neg inside, inside⟩

/-- The duration since an earlier system time is their difference. -/
theorem durationSince_cases (reading earlier : SystemTime) :
    (∃ duration, reading.durationSince earlier = some duration ∧
        (duration.nanos : Int) = reading.nanos - earlier.nanos) ∨
      reading.durationSince earlier = none ∧ reading.nanos < earlier.nanos := by
  by_cases ordered : earlier.nanos ≤ reading.nanos
  · refine .inl ⟨_, if_pos ordered, ?_⟩
    simp only [Reading.saturatingDurationSince]
    omega
  · exact .inr ⟨if_neg ordered, by omega⟩

/-- The startup instant is computed unless one of the clocks cannot express it. -/
theorem startupFrom_cases (earliest : Int) (announced : SyncInfo) (now : TimeInfo)
    (small : announced.sinceEpoch.nanos ≤ 2 ^ 64 - 1) :
    (∃ startup, startupFrom earliest announced now = .ok startup ∧
        startup.instant.nanos =
          now.instant.nanos - (now.systime.nanos - announced.sinceEpoch.nanos)) ∨
      (∃ message, startupFrom earliest announced now = .error message) ∧
        (now.systime.nanos < announced.sinceEpoch.nanos ∨
          ¬ Reading.Representable earliest
            (now.instant.nanos - (now.systime.nanos - announced.sinceEpoch.nanos))) := by
  obtain ⟨time, added, same⟩ := unixEpoch_add small
  rw [startupFrom, added]
  rcases durationSince_cases now.systime time with ⟨elapsed, since, difference⟩ | ⟨none, ahead⟩
  · simp only [since]
    rcases checkedSub_cases earliest now.instant elapsed with
      ⟨startup, subtracted, instant⟩ | ⟨none, outside⟩
    · simp only [subtracted]
      refine .inl ⟨⟨time, startup⟩, rfl, ?_⟩
      rw [instant, difference, same]
    · simp only [none]
      rw [difference, same] at outside
      exact .inr ⟨⟨_, rfl⟩, .inr outside⟩
  · simp only [none]
    rw [same] at ahead
    exact .inr ⟨⟨_, rfl⟩, .inl ahead⟩

/-- An unset startup time is set to the one that is calculated from the current time. -/
theorem initializeFrom_none (earliest : Int) (announced : SyncInfo) {tries : Nat → ClockTry}
    {now : TimeInfo} (found : timeInfoNow tries = .ok now) :
    initializeFrom earliest none announced tries =
      (startupFrom earliest announced now).map some := by
  rw [initializeFrom, found]

/-- Without a speed factor the timestamp is the duration since the startup instant. -/
theorem timestamp_unscaled (info : TimeInfo) (now : Instant) :
    timestamp (some info) 0 now = .ok ⟨now.saturatingDurationSince info.instant⟩ := rfl

/-- At every moment the timestamps differ by less than the skew and the maximal delay. -/
def Host.Agrees (primary secondary : Host) (skew : Int) (info : TimeInfo)
    (startup : StartupTime) : Prop :=
  ∀ moment primaryInstant secondaryInstant, primary.ReadsInstant moment primaryInstant →
    secondary.ReadsInstant moment secondaryInstant →
    ∃ first second, timestamp (some info) 0 primaryInstant = .ok first ∧
      timestamp startup 0 secondaryInstant = .ok second ∧
      ((first.duration.nanos : Int) - second.duration.nanos).natAbs < skew.natAbs + maxDelay

/-- The timestamps of both agents agree up to the skew of the wall clocks and the delay. -/
theorem timestamp_agrees (primary secondary : Host) (skew : Int)
    (skewed : secondary.wallOffset = primary.wallOffset + skew)
    (primaryTries secondaryTries : Nat → ClockTry)
    (primaryPerforms : ∀ index, primary.Performs (primaryTries index))
    (secondaryPerforms : ∀ index, secondary.Performs (secondaryTries index))
    (earliest : Int) (info now : TimeInfo)
    (started : initializeStartupTime none primaryTries = .ok (some info))
    (early : 0 ≤ info.systime.nanos) (small : info.systime.nanos ≤ 2 ^ 64 - 1)
    (found : timeInfoNow secondaryTries = .ok now) :
    ∃ announced received, syncInfo (some info) = .ok announced ∧
      ProtocolSignal.tryDecode (ProtocolSignal.core (.startupSync announced)).encode =
        .ok (some (.core (.startupSync received),
          (ProtocolSignal.core (.startupSync announced)).encode.length)) ∧
      (∀ startup, initializeFrom earliest none received secondaryTries = .ok startup →
        primary.Agrees secondary skew info startup) ∧
      ∀ message, initializeFrom earliest none received secondaryTries = .error message →
        now.systime.nanos < info.systime.nanos ∨
          ¬ Reading.Representable earliest
            (now.instant.nanos - (now.systime.nanos - info.systime.nanos)) := by
  obtain ⟨announced, synced, since⟩ := syncInfo_eq early
  have short : announced.sinceEpoch.nanos ≤ 2 ^ 64 - 1 := by omega
  refine ⟨announced, announced, synced, startupSync_received announced short, ?_, ?_⟩
  · intro startup initialized moment primaryInstant secondaryInstant primaryReads secondaryReads
    rw [initializeFrom_none earliest announced found] at initialized
    obtain ⟨started, infoInstant, infoRead, infoBefore, infoAfter, infoSystime⟩ :=
      primary.startup_reads primaryPerforms started
    obtain ⟨synced, nowInstant, nowRead, before, after, nowSystime⟩ :=
      secondary.timeInfoNow_reads secondaryPerforms found
    rcases startupFrom_cases earliest announced now short with
      ⟨computed, result, instant⟩ | ⟨⟨message, failed⟩, _⟩
    · rw [result] at initialized
      cases initialized
      refine ⟨_, _, timestamp_unscaled info primaryInstant,
        timestamp_unscaled computed secondaryInstant, ?_⟩
      simp only [Reading.saturatingDurationSince]
      unfold Host.ReadsInstant at infoInstant nowInstant primaryReads secondaryReads
      unfold Host.ReadsSystime at infoSystime nowSystime
      omega
    · rw [failed] at initialized
      cases initialized
  · intro message failed
    rw [initializeFrom_none earliest announced found] at failed
    rcases startupFrom_cases earliest announced now short with
      ⟨startup, computed, _⟩ | ⟨_, clocks⟩
    · rw [computed] at failed
      cases failed
    · rw [since] at clocks
      exact clocks

theorem hundred_lower : -9223372036854775808000000000 ≤ (100 : Int) := by omega

theorem hundred_upper : (100 : Int) < 9223372036854775808000000000 := by omega

/-- The primary starts at 100 ns, and its wall clock counts from the same origin. -/
def hundred : Reading := ⟨100, hundred_lower, hundred_upper⟩

/-- The secondary synchronizes at 200 ns with a monotonic clock that started at 50 ns. -/
def secondaryNow : TimeInfo := ⟨⟨207, by omega, by omega⟩, ⟨150, by omega, by omega⟩⟩

/-- With a skew of 7 ns the secondary places the startup at 43 ns of its monotonic clock, and at
300 ns its timestamp is 7 ns ahead of that of the primary. -/
theorem timestamp_agrees_skewed :
    Host.Agrees ⟨0, 0⟩ ⟨50, 7⟩ 7 ⟨hundred, hundred⟩
      (some ⟨hundred, ⟨43, by omega, by omega⟩⟩) ∧
    timestamp (some ⟨hundred, hundred⟩) 0 ⟨300, by omega, by omega⟩ =
      .ok ⟨Duration.fromNanos 200⟩ ∧
    timestamp (some ⟨hundred, ⟨43, by omega, by omega⟩⟩) 0 ⟨250, by omega, by omega⟩ =
      .ok ⟨Duration.fromNanos 207⟩ := by
  refine ⟨?_, rfl, rfl⟩
  obtain ⟨announced, received, synced, decoded, agrees, _⟩ :=
    timestamp_agrees ⟨0, 0⟩ ⟨50, 7⟩ 7 rfl (fun _ => ⟨hundred, hundred, hundred⟩)
      (fun _ => ⟨secondaryNow.instant, secondaryNow.systime, secondaryNow.instant⟩)
      (fun _ => ⟨100, 100, 100, le_refl _, le_refl _, rfl, rfl, rfl⟩)
      (fun _ => ⟨200, 200, 200, le_refl _, le_refl _, rfl, rfl, rfl⟩) 0 ⟨hundred, hundred⟩
      secondaryNow rfl (by decide) (by decide) rfl
  cases synced
  rw [startupSync_received _ (by decide)] at decoded
  cases decoded
  exact agrees _ rfl

end Feo
