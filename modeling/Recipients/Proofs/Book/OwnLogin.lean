import Recipients.Book
import Recipients.Proofs.Alias.Unfolding
import Recipients.Proofs.Text

/-
  The login of the user. Expansion may give it the real name of the account and the domain of this host,
  and classification knows the user by the login, alone or at this host. Both take the domain from the
  settings, each in its own way: what expansion makes of the login is always the user's
  (`isUser_expand_login`), whatever the host is called and whether its name is hidden or used at all.
-/

namespace Recipients
namespace Book

variable {b : Book} {user spelled host : Text} {a : Address}

theorem isAt_self (hspelled : spelled.alike user = true) (hat : '@' ∉ spelled) (host : Text) :
    isAt user host (spelled ++ '@' :: host) = true := by
  rw [isAt, Text.cutFirst_append hat]
  exact Bool.and_eq_true_iff.2 ⟨hspelled, Text.alike_refl host⟩

/-- The domain that expansion adds is a name of this host. -/
theorem mem_hosts_of_domain (h : b.expander.domain = some host) : host ∈ b.hosts := by
  have hdomain : b.settings.domain? true = some host := by
    unfold expander at h
    dsimp only at h
    split at h
    · exact h
    · cases h
  exact List.mem_filterMap.2 ⟨some host, by simp [hdomain], rfl⟩

/-- The login is the user's, alone and at every name of this host. -/
theorem isUser_of_login (huser : b.settings.login? b.environment = some user)
    (hspelled : spelled.alike user = true) (hat : '@' ∉ spelled)
    (ha : a.mailbox = some spelled ∨ ∃ host ∈ b.hosts, a.mailbox = some (spelled ++ '@' :: host)) :
    b.isUser a = true := by
  have hlogin : ∃ m, a.mailbox = some m ∧ b.isLogin m = true := by
    rcases ha with ha | ⟨host, hhost, ha⟩
    · refine ⟨_, ha, ?_⟩
      simp [isLogin, huser, hspelled]
    · refine ⟨_, ha, ?_⟩
      rw [isLogin, huser, Option.any_some, Bool.or_eq_true, List.any_eq_true]
      exact .inr ⟨host, hhost, isAt_self hspelled hat host⟩
  obtain ⟨m, hm, hlogin⟩ := hlogin
  simp [isUser, hm, hlogin]

/-- A local mailbox that no alias is called by stays, alone or at this host. -/
theorem expand_local (hfree : b.aliases.get? spelled = none) (ha : a.mailbox = some spelled) :
    ∃ a', b.expand [a] = [a'] ∧
      (a'.mailbox = some spelled ∨ ∃ host ∈ b.hosts, a'.mailbox = some (spelled ++ '@' :: host)) := by
  have hnone : b.expander.alias? a = none := by
    rw [Expander.alias?_eq_none_iff]
    rintro c ⟨-, -, m, hm, -, hc⟩
    rw [ha] at hm
    cases hm
    rw [show b.expander.aliases.get? spelled = none from hfree] at hc
    cases hc
  refine ⟨b.expander.settled a, ?_, ?_⟩
  · rw [expand, Expander.expand, Expander.expandFrom_settled hnone, Expander.expandFrom]
    rfl
  · rw [Expander.settled_mailbox, Expander.counted, ha, Option.map_some]
    split
    · rename_i host hdomain
      split
      · exact .inr ⟨host, mem_hosts_of_domain hdomain, rfl⟩
      · exact .inl rfl
    · exact .inl rfl

/-- An entry with the login for its mailbox, in any capitals, expands to one entry, which is the user's,
    where no alias has that name. The settings, the accounts and the alternates may be any. -/
theorem isUser_expand_login (huser : b.settings.login? b.environment = some user) (hlocal : '@' ∉ user)
    (hfree : ∀ c ∈ b.aliases.aliases, c.isNamed user = false) (hspelled : spelled.alike user = true)
    (ha : a.mailbox = some spelled) : ∃ a', b.expand [a] = [a'] ∧ b.isUser a' = true := by
  have hlower : spelled.lower = user.lower := Text.alike_iff.1 hspelled
  have hat : '@' ∉ spelled := by
    rwa [← Text.at_mem_lower_iff, hlower, Text.at_mem_lower_iff]
  have hnone : b.aliases.get? spelled = none := by
    rw [Expander.get?_congr b.aliases hlower]
    exact List.find?_eq_none.2 fun c hc => Bool.eq_false_iff.1 (hfree c hc)
  obtain ⟨a', hexpand, hmailbox⟩ := expand_local hnone ha
  exact ⟨a', hexpand, isUser_of_login huser hspelled hat hmailbox⟩

/-- A host without a first label, which is hidden, and an alias that holds the login without being called
    by it. -/
theorem isUser_expand_login_hidden :
    let b : Book :=
      { tools := .standard
        settings := { hostname := some "..b".toList, hiddenHost := true }
        environment := { user := some "jo".toList }
        directory := [⟨"jo".toList, "Jo Doe".toList⟩]
        nameMask := ⟨[], ⟨some, fun _ => true⟩⟩
        aliases := { aliases := [{ name := "j".toList, addresses := [.ofMailbox "jo".toList] }] } }
    b.settings.login? b.environment = some "jo".toList ∧ '@' ∉ "jo".toList ∧
    (∀ c ∈ b.aliases.aliases, c.isNamed "jo".toList = false) ∧
    Text.alike "Jo".toList "jo".toList = true ∧
    b.settings.domain? true = some ".b".toList ∧
    ∃ a, b.expand [.ofMailbox "Jo".toList] = [a] ∧ b.isUser a = true := by
  intro b
  have huser : b.settings.login? b.environment = some "jo".toList := by decide
  have hlocal : '@' ∉ "jo".toList := by decide
  have hfree : ∀ c ∈ b.aliases.aliases, c.isNamed "jo".toList = false := by decide
  have hspelled : Text.alike "Jo".toList "jo".toList = true := by decide
  exact ⟨huser, hlocal, hfree, hspelled, by decide,
    isUser_expand_login huser hlocal hfree hspelled rfl⟩

end Book
end Recipients
