import Complyx.Encoding.Find

namespace Complyx

open Encoding

/-!
# The database URL in the log

`sanitize_url` replaces what stands between the last colon before the first `@`
and that `@`.  A colon or an `@` in the password, or the lack of a user name,
puts them elsewhere than around the password, and then the log shows of the
password what lies outside.
-/

/-- `sanitize_url` on the characters of the text.  The delimiters are ASCII, so
positions of characters compare and cut as positions of bytes do. -/
def sanitizeChars (url : List Char) : List Char :=
  match find '@' url with
  | none => url
  | some atPos =>
      match rfind ':' (url.take atPos) with
      | none => url
      | some colonPos =>
          let schemeEnd :=
            ((findWord [':', '/', '/'] url).map fun p => p + 3).getD 0
          if schemeEnd < colonPos then
            url.take colonPos ++ [':', '*', '*', '*'] ++ url.drop atPos else url

/-- `sanitize_url`. -/
def sanitizeUrl (url : String) : String :=
  String.ofList (sanitizeChars url.toList)

/-- A URL of a database without its password.  A scheme has neither colons nor
`@` in it. -/
structure DatabaseUrl where
  scheme : String
  user : String
  host : String
  rest : String
  isScheme : ':' ∉ scheme.toList ∧ '@' ∉ scheme.toList

def DatabaseUrl.text (url : DatabaseUrl) (password : String) : String :=
  url.scheme ++ "://" ++ url.user ++ ":" ++ password ++ "@" ++ url.host ++ "/" ++
    url.rest

/-- A URL and a password of which the scanner finds the delimiters: there is a
user name, and none of the delimiters stands in the two. -/
structure Delimited (url : DatabaseUrl) (password : String) : Prop where
  named : url.user ≠ ""
  user : '@' ∉ url.user.toList
  noColon : ':' ∉ password.toList
  noAt : '@' ∉ password.toList

/-! ## What is left of the part before the host -/

/-- The part between the scheme and the first `@` as it is logged. -/
def maskInfo (info : List Char) : List Char :=
  match rfind ':' info with
  | some (position + 1) => info.take (position + 1) ++ [':', '*', '*', '*']
  | _ => info

theorem sanitizeChars_eq {scheme info : List Char} (noColon : ':' ∉ scheme)
    (noAt : '@' ∉ scheme) (noAt' : '@' ∉ info) (tail : List Char) :
    sanitizeChars (scheme ++ [':', '/', '/'] ++ info ++ '@' :: tail) =
      scheme ++ [':', '/', '/'] ++ maskInfo info ++ '@' :: tail := by
  have start : (scheme ++ [':', '/', '/']).length = scheme.length + 3 :=
    List.length_append
  have located : find '@' (scheme ++ [':', '/', '/'] ++ info ++ '@' :: tail) =
      some (scheme ++ [':', '/', '/'] ++ info).length := by
    apply find_first
    simp only [List.mem_append, not_or]
    exact ⟨⟨noAt, by decide⟩, noAt'⟩
  have schemed :
      findWord [':', '/', '/']
        (scheme ++ [':', '/', '/'] ++ info ++ '@' :: tail) =
        some scheme.length := by
    rw [List.append_assoc]
    exact findWord_first noColon (info ++ '@' :: tail)
  have ofScheme : rfind ':' (scheme ++ [':', '/', '/']) = some scheme.length := by
    rw [rfind_append]
    rfl
  rw [sanitizeChars, located]
  dsimp only
  rw [List.take_left, rfind_append, ofScheme, start, schemed, maskInfo]
  cases found : rfind ':' info with
  | none => exact if_neg (by simp only [Option.map_some, Option.getD_some]; omega)
  | some position =>
      cases position with
      | zero =>
          exact if_neg (by simp only [Option.map_some, Option.getD_some]; omega)
      | succ position =>
          have inside := Nat.le_of_lt (rfind_length found)
          have cut :
              (scheme ++ [':', '/', '/'] ++ info ++ '@' :: tail).take
                (scheme.length + 3 + (position + 1)) =
              scheme ++ [':', '/', '/'] ++ info.take (position + 1) := by
            rw [List.append_assoc, ← start, List.take_length_add_append,
              List.take_append_of_le_length inside]
          dsimp only
          rw [if_pos (by simp only [Option.map_some, Option.getD_some]; omega),
            List.drop_left, cut]
          simp only [List.append_assoc]

/-! ## The password in it -/

section Password

variable {user : List Char}

/-- A user name with an `@` leaves the password after it as it is. -/
theorem sanitizeChars_stained {scheme before : List Char} (noColon : ':' ∉ scheme)
    (noAt : '@' ∉ scheme) (absent : '@' ∉ before)
    (after password tail : List Char) :
    sanitizeChars (scheme ++ [':', '/', '/'] ++
        (before ++ '@' :: after ++ ':' :: password) ++ '@' :: tail) =
      scheme ++ [':', '/', '/'] ++
        (maskInfo before ++
          '@' :: (after ++ ':' :: (password ++ '@' :: tail))) := by
  have split : scheme ++ [':', '/', '/'] ++
        (before ++ '@' :: after ++ ':' :: password) ++ '@' :: tail =
      scheme ++ [':', '/', '/'] ++ before ++
        '@' :: (after ++ ':' :: (password ++ '@' :: tail)) := by
    simp only [List.append_assoc, List.cons_append]
  rw [split, sanitizeChars_eq noColon noAt absent, List.append_assoc]

theorem fromOn_opens (password tail : List Char) :
    Exists fun after => fromOn '@' password ++ '@' :: tail = '@' :: after := by
  cases left : fromOn '@' password with
  | nil => exact ⟨tail, rfl⟩
  | cons head rest =>
      rw [fromOn_cons left]
      exact ⟨rest ++ '@' :: tail, rfl⟩

/-- Without one, the part up to the first `@` of the password is masked. -/
theorem sanitizeChars_plain {scheme : List Char} (noColon : ':' ∉ scheme)
    (noAt : '@' ∉ scheme) (plain : '@' ∉ user) (password tail : List Char) :
    sanitizeChars
      (scheme ++ [':', '/', '/'] ++ (user ++ ':' :: password) ++ '@' :: tail) =
      scheme ++ [':', '/', '/'] ++ (maskInfo (user ++ ':' :: upTo '@' password) ++
        (fromOn '@' password ++ '@' :: tail)) := by
  have noAt' : '@' ∉ user ++ ':' :: upTo '@' password := by
    rw [List.mem_append, List.mem_cons, not_or, not_or]
    exact ⟨plain, by decide, not_mem_upTo '@' password⟩
  rcases fromOn_opens password tail with ⟨after, opened⟩
  have split :
      scheme ++ [':', '/', '/'] ++ (user ++ ':' :: password) ++ '@' :: tail =
      scheme ++ [':', '/', '/'] ++
        (user ++ ':' :: upTo '@' password) ++ '@' :: after := by
    rw [← opened]
    conv => lhs; rw [← upTo_append_fromOn '@' password]
    simp only [List.append_assoc, List.cons_append]
  rw [split, sanitizeChars_eq noColon noAt noAt', opened, List.append_assoc]

/-- What is masked of a user name and the part of a password. -/
theorem maskInfo_password (user part : List Char) :
    maskInfo (user ++ ':' :: part) =
      match beforeLast ':' part with
      | some before => user ++ ':' :: (before ++ [':', '*', '*', '*'])
      | none =>
          if user = [] then ':' :: part else user ++ [':', '*', '*', '*'] := by
  rw [maskInfo, rfind_append, rfind, beforeLast]
  cases rfind ':' part with
  | some position =>
      have taken : (user ++ ':' :: part).take (user.length + (position + 1)) =
          user ++ ':' :: part.take position := by
        rw [List.take_length_add_append, List.take_succ_cons]
      have joined : user ++ ':' :: part.take position ++ [':', '*', '*', '*'] =
          user ++ ':' :: (part.take position ++ [':', '*', '*', '*']) := by
        rw [List.append_assoc, List.cons_append]
      exact (congrArg (fun shown => shown ++ [':', '*', '*', '*']) taken).trans
        joined
  | none =>
      cases user with
      | nil => rfl
      | cons head rest =>
          have taken : (head :: rest ++ ':' :: part).take (head :: rest).length =
            head :: rest := List.take_left
          exact congrArg (fun shown => shown ++ [':', '*', '*', '*']) taken

theorem not_mem_maskInfo {info : List Char} (absent : '@' ∉ info) :
    '@' ∉ maskInfo info := by
  unfold maskInfo
  split
  · rw [List.mem_append, not_or]
    exact ⟨fun member => absent (List.mem_of_mem_take member), by decide⟩
  · exact absent

/-- What is masked is the whole password exactly if the delimiters are found, or
if it was masked before. -/
theorem maskInfo_stars {user password : List Char}
    (masked : maskInfo (user ++ ':' :: password) = user ++ [':', '*', '*', '*']) :
    (user ≠ [] ∧ ':' ∉ password) ∨ password = ['*', '*', '*'] := by
  rw [maskInfo_password] at masked
  cases split : beforeLast ':' password with
  | some before =>
      rw [split] at masked
      have lengths := congrArg List.length (List.append_cancel_left masked)
      simp only [List.length_cons, List.length_append, List.length_nil] at lengths
      omega
  | none =>
      rw [split] at masked
      dsimp only at masked
      by_cases nameless : user = []
      · rw [if_pos nameless, nameless] at masked
        exact Or.inr (List.cons.inj masked).2
      · exact Or.inl ⟨nameless, beforeLast_none_iff.mp split⟩

theorem maskInfo_delimited {user password : List Char} (named : user ≠ [])
    (noColon : ':' ∉ password) :
    maskInfo (user ++ ':' :: password) = user ++ [':', '*', '*', '*'] := by
  rw [maskInfo_password, beforeLast_none_iff.mpr noColon]
  exact if_neg named

/-- A URL logged with stars for the password had stars, or delimiters. -/
theorem sanitizeChars_stars {scheme : List Char} (noColon : ':' ∉ scheme)
    (noAt : '@' ∉ scheme) {user password tail : List Char}
    (logged : sanitizeChars
        (scheme ++ [':', '/', '/'] ++ (user ++ ':' :: password) ++ '@' :: tail) =
      scheme ++ [':', '/', '/'] ++
        (user ++ [':', '*', '*', '*']) ++ '@' :: tail) :
    (user ≠ [] ∧ '@' ∉ user ∧ ':' ∉ password ∧ '@' ∉ password) ∨
      password = ['*', '*', '*'] := by
  by_cases stained : '@' ∈ user
  · -- What follows the `@` of the user name is shown as it is.
    rcases List.eq_append_cons_of_mem stained with ⟨before, after, same, absent⟩
    rw [same, sanitizeChars_stained noColon noAt absent] at logged
    simp only [List.append_assoc, List.cons_append, List.nil_append,
      List.append_right_inj, List.cons.injEq, true_and] at logged
    rw [cut_inj (not_mem_maskInfo absent) absent] at logged
    have shown := List.append_cancel_left logged.2
    exact Or.inr (List.append_cancel_right (List.cons.inj shown).2)
  · -- The first `@` comes after the user name: it is the one before the host.
    rw [sanitizeChars_plain noColon noAt stained,
      List.append_assoc (scheme ++ [':', '/', '/']),
        List.append_right_inj] at logged
    rcases fromOn_opens password tail with ⟨after, opened⟩
    have noAtInfo : '@' ∉ user ++ ':' :: upTo '@' password := by
      simp only [List.mem_append, List.mem_cons, not_or]
      exact ⟨stained, by decide, not_mem_upTo '@' password⟩
    have noAtStars : '@' ∉ user ++ [':', '*', '*', '*'] := by
      rw [List.mem_append, not_or]
      exact ⟨stained, by decide⟩
    rw [opened, cut_inj (not_mem_maskInfo noAtInfo) noAtStars] at logged
    have ended : fromOn '@' password = [] := by
      rw [logged.2] at opened
      exact List.append_left_eq_self.mp opened
    have whole : upTo '@' password = password := by
      have joined := upTo_append_fromOn '@' password
      rwa [ended, List.append_nil] at joined
    have noAt' := not_mem_upTo '@' password
    rw [whole] at logged noAt'
    rcases maskInfo_stars logged.1 with ⟨named, noColon'⟩ | stars
    · exact Or.inl ⟨named, stained, noColon', noAt'⟩
    · exact Or.inr stars

end Password

/-! ## The logged URLs -/

theorem DatabaseUrl.text_toList (url : DatabaseUrl) (password : String) :
    (url.text password).toList =
    url.scheme.toList ++ [':', '/', '/'] ++
      (url.user.toList ++ ':' :: password.toList) ++
      '@' :: (url.host.toList ++ '/' :: url.rest.toList) := by
  have separators : "://".toList = [':', '/', '/'] ∧ ":".toList = [':'] ∧
      "@".toList = ['@'] ∧ "/".toList = ['/'] := by
    decide
  simp only [text, String.toList_append, separators, List.append_assoc,
    List.cons_append, List.nil_append]

theorem DatabaseUrl.stars_toList (url : DatabaseUrl) : (url.text "***").toList =
    url.scheme.toList ++ [':', '/', '/'] ++
      (url.user.toList ++ [':', '*', '*', '*']) ++
      '@' :: (url.host.toList ++ '/' :: url.rest.toList) := by
  have stars : "***".toList = ['*', '*', '*'] := by decide
  rw [text_toList, stars]

/-- Of a delimited password the log shows nothing. -/
theorem Delimited.hidden {url : DatabaseUrl} {password : String}
    (delimited : Delimited url password) :
    sanitizeUrl (url.text password) = url.text "***" := by
  have named : url.user.toList ≠ [] := fun none =>
    delimited.named (String.toList_eq_nil_iff.mp none)
  have noAt : '@' ∉ url.user.toList ++ ':' :: password.toList := by
    simp only [List.mem_append, List.mem_cons, not_or]
    exact ⟨delimited.user, by decide, delimited.noAt⟩
  rw [sanitizeUrl, ← String.toList_inj, String.toList_ofList, url.text_toList,
    url.stars_toList, sanitizeChars_eq url.isScheme.1 url.isScheme.2 noAt,
    maskInfo_delimited named delimited.noColon]

/-- A password that is logged as stars is delimited, or was stars. -/
theorem delimited_or_stars {url : DatabaseUrl} {password : String}
    (hidden : sanitizeUrl (url.text password) = url.text "***") :
    Delimited url password ∨ password = "***" := by
  rw [sanitizeUrl, ← String.toList_inj, String.toList_ofList, url.text_toList,
    url.stars_toList] at hidden
  rcases sanitizeChars_stars url.isScheme.1 url.isScheme.2 hidden with
    ⟨named, user, noColon, noAt⟩ | stars
  · refine Or.inl ⟨?_, user, noColon, noAt⟩
    intro nameless
    exact named (String.toList_eq_nil_iff.mpr nameless)
  · exact Or.inr (String.toList_inj.mp stars)

/-- Two URLs that differ in the password alone are logged the same, and with
nothing of either password, exactly if the scanner finds the delimiters of both:
there is a user name, without `@`, and the passwords have neither `:` nor `@`. -/
theorem passwords_hidden_iff (url : DatabaseUrl) {first second : String}
    (differ : first ≠ second) :
    (sanitizeUrl (url.text first) = sanitizeUrl (url.text second) ∧
      sanitizeUrl (url.text first) = url.text "***" ∧
      sanitizeUrl (url.text second) = url.text "***") <->
    Delimited url first ∧ Delimited url second := by
  constructor
  · intro logged
    rcases logged with ⟨_, firstHidden, secondHidden⟩
    rcases delimited_or_stars firstHidden with ofFirst | firstStars
    · rcases delimited_or_stars secondHidden with ofSecond | secondStars
      · exact ⟨ofFirst, ofSecond⟩
      · rw [secondStars]
        exact ⟨ofFirst, ofFirst.named, ofFirst.user, by decide, by decide⟩
    · rcases delimited_or_stars secondHidden with ofSecond | secondStars
      · rw [firstStars]
        exact ⟨⟨ofSecond.named, ofSecond.user, by decide, by decide⟩, ofSecond⟩
      · exact absurd (firstStars.trans secondStars.symm) differ
  · intro delimited
    have firstHidden := delimited.1.hidden
    have secondHidden := delimited.2.hidden
    exact ⟨firstHidden.trans secondHidden.symm, firstHidden, secondHidden⟩

/-! ## Passwords in the log -/

def localUrl (user : String) : DatabaseUrl :=
  ⟨"postgres", user, "localhost", "complyx", by decide⟩

theorem passwords_hidden_iff_plain :
    sanitizeUrl ((localUrl "complyx").text "secreto") =
        sanitizeUrl ((localUrl "complyx").text "oculto") ∧
      sanitizeUrl ((localUrl "complyx").text "secreto") =
        (localUrl "complyx").text "***" ∧
      sanitizeUrl ((localUrl "complyx").text "oculto") =
        (localUrl "complyx").text "***" := by
  apply (passwords_hidden_iff (localUrl "complyx") _).mpr
  · constructor <;> exact ⟨by decide, by decide, by decide, by decide⟩
  · decide

/-- No user name, an `@`, a colon. -/
theorem passwords_logged :
    sanitizeUrl ((localUrl "").text "secreto") ≠ sanitizeUrl
      ((localUrl "").text "oculto") ∧
    sanitizeUrl ((localUrl "complyx").text "clave@secreto") ≠ sanitizeUrl
      ((localUrl "complyx").text "clave@oculto") ∧
    sanitizeUrl ((localUrl "complyx").text "secreto:clave") ≠
      sanitizeUrl ((localUrl "complyx").text "oculto:clave") := by
  refine ⟨?_, ?_, ?_⟩ <;> decide +kernel

end Complyx
