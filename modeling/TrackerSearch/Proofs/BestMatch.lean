import TrackerSearch.Proofs.Registry

/-!
# The best known pattern for a URL

A registry picks the pattern for a URL in one pass over its patterns in registration order.
A pattern's relevance is the number of its groups after the whole match that took something
non-empty. A pattern that matches replaces the best so far only when it is strictly more
relevant, so the pass ends at the first pattern of greatest relevance (`bestSoFar_foldl`).

The fragment of the URL is then made by looking the pattern up again, by the name of the best
match, and running it a second time. In a registry reached by registration calls names do not
repeat, so the lookup finds the pattern that was picked. The fragment is then what that pattern
makes of the groups of the best match, and the fallback for URLs that no pattern matches is not
taken (`bestMatch_first_most_relevant`).
-/

namespace TrackerSearch

open Pattern

namespace KnownUrl

/-- A text with a backslash put before each colon. -/
def escapeColons (s : String) : String :=
  String.ofList (s.toList.flatMap fun c => if c == ':' then ['\\', c] else [c])

variable {k : KnownUrl} {url : String} {caps : List (Option String)}

theorem relevance_eq_none_iff : k.relevance url = none ↔ k.regex.captures url = none := by
  simp [relevance]

/-- The relevance of a matching pattern counts the groups after the whole match that are not
empty, a group that took no part counting as empty. -/
theorem relevance_of_captures (h : k.regex.captures url = some caps) :
    k.relevance url = some (((caps.drop 1).map (·.getD "")).countP (· ≠ "")) := by
  simp only [relevance, h, Option.map_some, List.countP_map]
  congr 1
  apply List.countP_congr
  intro o _
  cases o <;> simp

/-- What a matching pattern makes of a URL: the whole match when there is no group after it;
else the groups concatenated with colons escaped, offered after the `id` group when that group
took something. -/
theorem decompose_of_captures (h : k.regex.captures url = some caps) :
    k.decompose url = some
      (if caps.drop 1 = [] then (caps.head?.join).getD "" ++ ":*"
      else match k.regex.named caps "id" with
        | some v =>
          if v = "" then escapeColons (String.join ((caps.drop 1).map (·.getD ""))) ++ ":*"
          else "(" ++ v ++ ":*" ++ " | " ++
            escapeColons (String.join ((caps.drop 1).map (·.getD ""))) ++ ":*" ++ ")"
        | none => escapeColons (String.join ((caps.drop 1).map (·.getD ""))) ++ ":*") := by
  unfold decompose
  rw [h]
  rcases caps with _ | ⟨whole, _ | ⟨g, gs⟩⟩
  · simp [Regex.named, Lexeme.prefixMatch]
  · simp [Lexeme.prefixMatch]
  · simp only [Option.bind_eq_bind, Option.bind_some, List.drop_succ_cons, List.drop_zero,
      reduceCtorEq, if_false]
    cases k.regex.named (whole :: g :: gs) "id" with
    | none => simp [escapeColons, Lexeme.prefixMatch]
    | some v =>
      by_cases hv : v = "" <;> simp [hv, escapeColons, Lexeme.prefixMatch, String.append_assoc]

end KnownUrl

namespace Registry

/-- One step of the pass for the best pattern: a pattern that matches replaces the best so far
only when it is strictly more relevant. -/
def bestStep (url : String) (best : Option (KnownUrl × Nat)) (k : KnownUrl) :
    Option (KnownUrl × Nat) :=
  match k.relevance url with
  | none => best
  | some n =>
    match best with
    | some (_, m) => if n > m then some (k, n) else best
    | none => some (k, n)

theorem bestMatch_eq_foldl (r : Registry) (url : String) :
    r.bestMatch url = (r.entries.foldl (bestStep url) none).bind fun best =>
      (best.1.regex.captures url).map fun caps =>
        { name := best.1.name, groups := (caps.drop 1).map (·.getD "") } := by
  unfold bestMatch
  show Option.bind _ _ = _
  congr 1
  funext ⟨k, n⟩
  dsimp only
  cases k.regex.captures url <;> rfl

/-- `k`, of relevance `n` for `url`, is the first of the most relevant patterns of `l`: the
patterns before it are less relevant and those after it no more. -/
def FirstMost (url : String) (l : List KnownUrl) (k : KnownUrl) (n : Nat) : Prop :=
  ∃ pre post, l = pre ++ k :: post ∧ k.relevance url = some n ∧
    (∀ k' ∈ pre, ∀ m, k'.relevance url = some m → m < n) ∧
    ∀ k' ∈ post, ∀ m, k'.relevance url = some m → m ≤ n

/-- What the pass knows after the patterns `l`: none matched, or it holds the first most
relevant one. -/
def BestSoFar (url : String) (l : List KnownUrl) : Option (KnownUrl × Nat) → Prop
  | none => ∀ k ∈ l, k.relevance url = none
  | some (k, n) => FirstMost url l k n

section Pass

variable {url : String} {l : List KnownUrl} {k x : KnownUrl} {n : Nat}

theorem FirstMost.le (h : FirstMost url l k n) {k' : KnownUrl} (hk' : k' ∈ l) {m : Nat}
    (hm : k'.relevance url = some m) : m ≤ n := by
  obtain ⟨pre, post, rfl, hk, hpre, hpost⟩ := h
  rcases List.mem_append.1 hk' with hk' | hk'
  · exact Nat.le_of_lt (hpre k' hk' m hm)
  rcases List.mem_cons.1 hk' with rfl | hk'
  · rw [hk, Option.some.injEq] at hm
    exact Nat.le_of_eq hm.symm
  · exact hpost k' hk' m hm

theorem FirstMost.append (h : FirstMost url l k n)
    (hx : ∀ m, x.relevance url = some m → m ≤ n) : FirstMost url (l ++ [x]) k n := by
  obtain ⟨pre, post, rfl, hk, hpre, hpost⟩ := h
  refine ⟨pre, post ++ [x], by simp, hk, hpre, fun k' hk' m hm => ?_⟩
  rcases List.mem_append.1 hk' with hk' | hk'
  · exact hpost k' hk' m hm
  · rw [List.mem_singleton.1 hk'] at hm
    exact hx m hm

theorem firstMost_last (hl : ∀ k' ∈ l, ∀ m, k'.relevance url = some m → m < n)
    (hx : x.relevance url = some n) : FirstMost url (l ++ [x]) x n :=
  ⟨l, [], rfl, hx, hl, by simp⟩

/-- One step keeps what the pass knows. -/
theorem BestSoFar.step {best : Option (KnownUrl × Nat)} (h : BestSoFar url l best)
    (x : KnownUrl) : BestSoFar url (l ++ [x]) (bestStep url best x) := by
  cases hx : x.relevance url with
  | none =>
    have hstep : bestStep url best x = best := by simp [bestStep, hx]
    rw [hstep]
    cases best with
    | none =>
      intro k' hk'
      rcases List.mem_append.1 hk' with hk' | hk'
      · exact h k' hk'
      · rw [List.mem_singleton.1 hk']
        exact hx
    | some best => exact FirstMost.append h (by simp [hx])
  | some m =>
    cases best with
    | none =>
      have hstep : bestStep url none x = some (x, m) := by simp [bestStep, hx]
      rw [hstep]
      exact firstMost_last (fun k' hk' m' hm' => by simp [h k' hk'] at hm') hx
    | some best =>
      obtain ⟨k0, n0⟩ := best
      by_cases hlt : n0 < m
      · have hstep : bestStep url (some (k0, n0)) x = some (x, m) := by
          simp [bestStep, hx, hlt]
        rw [hstep]
        exact firstMost_last
          (fun k' hk' m' hm' => Nat.lt_of_le_of_lt (FirstMost.le h hk' hm') hlt) hx
      · have hstep : bestStep url (some (k0, n0)) x = some (k0, n0) := by
          simp [bestStep, hx, hlt]
        rw [hstep]
        exact FirstMost.append h fun m' hm' => by
          rw [hx, Option.some.injEq] at hm'
          omega

/-- The pass over all the patterns ends knowing the first most relevant one, or that none
matched. -/
theorem bestSoFar_foldl (url : String) (l : List KnownUrl) :
    BestSoFar url l (l.foldl (bestStep url) none) := by
  induction l using List.reverseRecOn with
  | nil => simp [BestSoFar]
  | append_singleton l x ih =>
    rw [List.foldl_append, List.foldl_cons, List.foldl_nil]
    exact ih.step x

end Pass

/-- After any registration calls, the best match for a URL names the first pattern of greatest
relevance with the groups after its whole match, and the URL's fragment is what that pattern
makes of it; with no match there is none and the URL is its own fragment. -/
theorem bestMatch_first_most_relevant (defaults : Bool) (calls : List (String × String))
    (url : String) :
    ((afterCalls defaults calls).bestMatch url = none ∧
      (∀ k ∈ (afterCalls defaults calls).entries, k.regex.captures url = none) ∧
      (afterCalls defaults calls).urlFragment url = Lexeme.sanitizeUrl url ++ ":*") ∨
    ∃ pre k post caps m, (afterCalls defaults calls).entries = pre ++ k :: post ∧
      k.regex.captures url = some caps ∧
      (afterCalls defaults calls).bestMatch url = some m ∧ m.name = k.name ∧
      m.groups = (caps.drop 1).map (·.getD "") ∧
      k.relevance url = some (m.groups.countP (· ≠ "")) ∧
      (∀ k' ∈ pre, ∀ n, k'.relevance url = some n → n < m.groups.countP (· ≠ "")) ∧
      (∀ k' ∈ post, ∀ n, k'.relevance url = some n → n ≤ m.groups.countP (· ≠ "")) ∧
      k.decompose url = some ((afterCalls defaults calls).urlFragment url) ∧
      (afterCalls defaults calls).urlFragment url =
        if m.groups = [] then (caps.head?.join).getD "" ++ ":*"
        else match k.regex.named caps "id" with
          | some v =>
            if v = "" then KnownUrl.escapeColons (String.join m.groups) ++ ":*"
            else "(" ++ v ++ ":*" ++ " | " ++ KnownUrl.escapeColons (String.join m.groups) ++
              ":*" ++ ")"
          | none => KnownUrl.escapeColons (String.join m.groups) ++ ":*" := by
  have hnodup : (afterCalls defaults calls).names.Nodup :=
    nodup_names_serveAll (nodup_names_initial defaults) calls
  have hpass := bestSoFar_foldl url (afterCalls defaults calls).entries
  cases hbest : (afterCalls defaults calls).entries.foldl (bestStep url) none with
  | none =>
    rw [hbest] at hpass
    have hnone : (afterCalls defaults calls).bestMatch url = none := by
      rw [bestMatch_eq_foldl, hbest]
      rfl
    refine .inl ⟨hnone, fun k hk => KnownUrl.relevance_eq_none_iff.1 (hpass k hk), ?_⟩
    rw [urlFragment, hnone]
    rfl
  | some best =>
    obtain ⟨k, n⟩ := best
    rw [hbest] at hpass
    obtain ⟨pre, post, hsplit, hk, hpre, hpost⟩ := hpass
    obtain ⟨caps, hcaps⟩ : ∃ caps, k.regex.captures url = some caps :=
      Option.ne_none_iff_exists'.1 fun hc => by simp [KnownUrl.relevance_eq_none_iff.2 hc] at hk
    have hn : ((caps.drop 1).map (·.getD "")).countP (· ≠ "") = n := by
      rw [KnownUrl.relevance_of_captures hcaps, Option.some.injEq] at hk
      exact hk
    subst hn
    have hmatch : (afterCalls defaults calls).bestMatch url =
        some ⟨k.name, (caps.drop 1).map (·.getD "")⟩ := by
      rw [bestMatch_eq_foldl, hbest]
      simp [hcaps]
    have hget : (afterCalls defaults calls).get? k.name = some k :=
      (get?_eq_some_iff hnodup).2 ⟨by simp [hsplit], rfl⟩
    have hfragment : k.decompose url = some ((afterCalls defaults calls).urlFragment url) := by
      rw [urlFragment, hmatch]
      cases hd : k.decompose url with
      | none => simp [KnownUrl.decompose_of_captures hcaps] at hd
      | some f => simp [decompose, hget, hd]
    refine .inr ⟨pre, k, post, caps, _, hsplit, hcaps, hmatch, rfl, rfl,
      KnownUrl.relevance_of_captures hcaps, hpre, hpost, hfragment, ?_⟩
    rw [KnownUrl.decompose_of_captures hcaps, Option.some.injEq] at hfragment
    rw [← hfragment]
    exact if_congr List.map_eq_nil_iff.symm rfl rfl

end Registry

end TrackerSearch
