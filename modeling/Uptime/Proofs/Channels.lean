import Uptime.Proofs.Step
/-! The channels of an alarm and what sending through them does. A mention of a medium
gives a channel exactly when no earlier mention names the same medium and the alarm has
somewhere to send it (`channels_media`), so no medium has two channels. Sending through
one channel does the same from every service: it returns whether the notification was
delivered and sends at most one request or email (`deliver_fixed`). Sending through
channels in turn therefore reports each channel, under its own name and in order, as its
own delivery went, and sends exactly what each of them sends, one after the other
(`run'_dispatch`). Together: each destination is notified once, none is left out, and no
channel's outcome stands in for another's (`channels_dispatch_each_destination_once`). -/

namespace Uptime.Service

open Uptime.Alarm Uptime.Notify

/-! ### Which channels an alarm has -/

/-- The entries of `xs` that come first among the equal entries and that satisfy `keep`,
in order. -/
def firstMentions {α : Type} [DecidableEq α] (keep : α → Bool) (xs : List α) : List α :=
  (xs.zipIdx.filter fun e => !(xs.take e.2).contains e.1 && keep e.1).map Prod.fst

theorem firstMentions_concat {α : Type} [DecidableEq α] (keep : α → Bool) (xs : List α)
    (b : α) :
    firstMentions keep (xs ++ [b]) =
      firstMentions keep xs ++ if b ∉ xs ∧ keep b then [b] else [] := by
  unfold firstMentions
  rw [List.zipIdx_append, List.filter_append, List.map_append]
  congr 1
  · -- before the new entry, every prefix is a prefix of `xs`
    congr 1
    apply List.filter_congr
    intro e he
    have hlt : e.2 < xs.length + 0 := List.snd_lt_of_mem_zipIdx he
    rw [List.take_append_of_le_length (by omega)]
  · by_cases h : b ∉ xs ∧ keep b = true <;> simp_all

theorem firstMentions_subset {α : Type} [DecidableEq α] (keep : α → Bool) (xs : List α) :
    ∀ m ∈ firstMentions keep xs, m ∈ xs := by
  intro m hm
  obtain ⟨e, he, rfl⟩ := List.mem_map.1 hm
  exact List.fst_mem_of_mem_zipIdx (List.mem_filter.1 he).1

theorem firstMentions_nodup {α : Type} [DecidableEq α] (keep : α → Bool) (xs : List α) :
    (firstMentions keep xs).Nodup := by
  induction xs using List.reverseRecOn with
  | nil => exact List.nodup_nil
  | append_singleton xs b ih =>
    rw [firstMentions_concat]
    split
    · rename_i h
      exact ih.append (List.nodup_singleton b) fun m hm hb =>
        h.1 ((List.mem_singleton.1 hb) ▸ firstMentions_subset keep xs m hm)
    · simpa using ih

theorem eraseDups_filter {α : Type} [DecidableEq α] (keep : α → Bool) (xs : List α) :
    xs.eraseDups.filter keep = firstMentions keep xs := by
  induction xs using List.reverseRecOn with
  | nil => rfl
  | append_singleton xs b ih =>
    rw [List.eraseDups_append, List.filter_append, ih, firstMentions_concat]
    congr 1
    by_cases hb : b ∈ xs
    · simp [hb, List.removeAll]
    · by_cases hk : keep b = true <;> simp [hb, hk, List.removeAll, List.eraseDups_cons]

/-- Whether an alarm has somewhere to send notifications through a medium: an address
that is not empty, or for mail recipients and settings with both a user name and a
password. -/
def hasDestination (a : Config) (s : Settings) : Medium → Bool
  | .slack => a.slackUrl.any (!·.isEmpty)
  | .discord => a.discordUrl.any (!·.isEmpty)
  | .webhook => a.webhookUrl.any (!·.isEmpty)
  | .email => !a.emails.isEmpty && s.smtpUsername.any (!·.isEmpty) &&
      s.smtpPassword.any (!·.isEmpty)

theorem present_medium (x : Option String) (f : String → Channel) (m : Medium)
    (hf : ∀ u, (f u).medium = m) :
    (f <$> present x).map Channel.medium = if x.any (!·.isEmpty) then some m else none := by
  rcases x with _ | u
  · rfl
  · by_cases h : u.isEmpty <;> simp [present, h, hf]

theorem channelOf_medium (a : Config) (s : Settings) (m : Medium) :
    (channelOf a s m).map Channel.medium = if hasDestination a s m then some m else none := by
  cases m with
  | slack => exact present_medium _ _ _ fun _ => rfl
  | discord => exact present_medium _ _ _ fun _ => rfl
  | webhook => exact present_medium _ _ _ fun _ => rfl
  | email =>
    have he : s.emailEnabled = (s.smtpUsername.any (!·.isEmpty) &&
        s.smtpPassword.any (!·.isEmpty)) := by
      unfold Settings.emailEnabled
      rcases s.smtpUsername with _ | u <;> rcases s.smtpPassword with _ | w <;> rfl
    simp only [channelOf, hasDestination, he, Bool.and_assoc]
    split <;> simp_all [Channel.medium]

theorem channels_media (a : Config) (s : Settings) :
    (channels a s).map Channel.medium = firstMentions (hasDestination a s) a.media := by
  rw [channels, List.map_filterMap, ← eraseDups_filter, ← List.filterMap_eq_filter]
  congr 1
  funext m
  rw [channelOf_medium]
  by_cases h : hasDestination a s m <;> simp [h, Option.guard]

theorem Medium.name_injective : Function.Injective Medium.name := by
  intro m m' h
  cases m <;> cases m' <;> first | rfl | exact absurd h (by decide)

theorem channels_names_nodup (a : Config) (s : Settings) :
    ((channels a s).map Channel.name).Nodup := by
  have h : (channels a s).map Channel.name = ((channels a s).map Channel.medium).map Medium.name := by
    simp [Function.comp_def, Channel.name]
  rw [h, channels_media]
  exact (firstMentions_nodup _ _).map Medium.name_injective

/-! ### Sending through them -/

/-- Posting to an endpoint does the same from every service: it sends at most one
request. -/
theorem postJson_fixed (url : String) (body : Json.Value) (extra : List (String × String))
    (env : Surroundings) : ∃ ok ps ls, ps.length + ls.length ≤ 1 ∧
      ∀ s, (postJson url body extra).run' env s = (.ok ok, s.sending ps ls) := by
  unfold postJson
  split
  · exact ⟨false, [], [], by simp, fun s => by simp⟩
  · rename_i addr _
    split
    · exact ⟨false, [], [], by simp, fun s => by simp⟩
    · -- the request is sent whatever the endpoint answers; the answer is what is reported
      let post : Post := ⟨addr.sent, postHeaders extra, body⟩
      rcases hr : env.endpoints ⟨"POST", addr.sent⟩ with f | resp
      · exact ⟨false, [post], [], by simp, fun s => by
          simp [Act.run'_bind, hr, Node.sending, post]⟩
      · exact ⟨Http.isSuccess resp.status, [post], [], by simp, fun s => by
          simp [Act.run'_bind, hr, Node.sending, post]⟩

theorem mail_fixed (box : Mailbox) (p : Payload) (env : Surroundings) :
    ∃ ok ps ls, ps.length + ls.length ≤ 1 ∧
      ∀ s, (mail box p).run' env s = (.ok ok, s.sending ps ls) := by
  unfold mail
  split
  · exact ⟨false, [], [], by simp, fun s => by simp⟩
  · rename_i email _
    rcases hm : env.mail with _ | _ | _
    · exact ⟨true, [], [⟨box, email⟩], by simp, fun s => by
        simp [Act.run'_bind, Act.run'_map, hm, Node.sending]⟩
    all_goals exact ⟨false, [], [], by simp, fun s => by simp [Act.run'_bind, hm]⟩

theorem deliver_fixed (p : Payload) (c : Channel) (env : Surroundings) :
    ∃ ok ps ls, ps.length + ls.length ≤ 1 ∧
      ∀ s, (deliver p c).run' env s = (.ok ok, s.sending ps ls) := by
  cases c with
  | slack url => exact postJson_fixed _ _ _ env
  | discord url => exact postJson_fixed _ _ _ env
  | webhook url hs => exact postJson_fixed _ _ _ env
  | email box => exact mail_fixed box p env

/-- Sending through channels in turn, each of which does the same from every service,
reports each channel under its name with its own outcome, and sends what each sends, in
order. -/
theorem run'_dispatch (p : Payload) (cs : List Channel) {env : Surroundings}
    {ok : Channel → Bool} {posts : Channel → List Post} {letters : Channel → List Letter}
    (h : ∀ c s, (deliver p c).run' env s = (.ok (ok c), s.sending (posts c) (letters c)))
    (s : Node) :
    (dispatch p cs).run' env s =
      (.ok (cs.map fun c => (c.name, ok c)), s.sending (cs.flatMap posts) (cs.flatMap letters)) := by
  unfold dispatch
  induction cs generalizing s with
  | nil => simp
  | cons c cs ih =>
    rw [List.mapM_cons, Act.run'_bind, Act.run'_map, h]
    simp only [Act.run'_bind, ih, Act.run'_pure, Node.sending_sending, List.map_cons,
      List.flatMap_cons]

/-- **Each destination once.** The channels of an alarm are its first mentions of each
medium that has a destination, in order, with distinct names. Sending a notification
through them sends through each exactly once, in order: each channel's delivery returns
the same outcome and sends the same at most one request or email from every service, and
the report maps each channel's name to its own outcome. -/
theorem channels_dispatch_each_destination_once (a : Config) (settings : Settings)
    (p : Payload) (env : Surroundings) (s : Node) :
    (channels a settings).map Channel.medium = firstMentions (hasDestination a settings) a.media ∧
    ((channels a settings).map Channel.name).Nodup ∧
    ∃ (ok : Channel → Bool) (posts : Channel → List Post) (letters : Channel → List Letter),
      (∀ c, (posts c).length + (letters c).length ≤ 1 ∧
        ∀ s', (deliver p c).run' env s' = (.ok (ok c), s'.sending (posts c) (letters c))) ∧
      (dispatch p (channels a settings)).run' env s =
        (.ok ((channels a settings).map fun c => (c.name, ok c)),
          s.sending ((channels a settings).flatMap posts) ((channels a settings).flatMap letters)) := by
  choose ok posts letters hle hrun using fun c => deliver_fixed p c env
  exact ⟨channels_media a settings, channels_names_nodup a settings, ok, posts, letters,
    fun c => ⟨hle c, hrun c⟩, run'_dispatch p _ (fun c => hrun c) s⟩

end Uptime.Service
