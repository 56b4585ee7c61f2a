/-
  SqlComposer.Syntax.Vocabulary — the words that name an engine, a sort order, a
  conjunction or a join type. White space around a word and ASCII letter case do not
  count; a fault names the word as it was compared.
-/

import SqlComposer.Error

namespace SqlComposer

def Engine.ofText (s : String) : Except ConfigFault Engine :=
  let word := Text.lower (Text.trim s)
  if word == "mysql" || word == "mariadb" then .ok .mysql
  else if word == "postgres" || word == "postgresql" || word == "pgsql" || word == "pg" then .ok .postgres
  else if word.isEmpty then .error .emptyEngine
  else .error (.unknownEngine word)

def Order.ofText (s : String) : Except BuildFault Order :=
  let word := Text.upper (Text.trim s)
  if word == "ASC" then .ok .asc
  else if word == "DESC" then .ok .desc
  else .error (.unknownOrder word)

def Conjunction.ofText (s : String) : Except BuildFault Conjunction :=
  let word := Text.lower (Text.trim s)
  if word == "and" then .ok .and
  else if word == "or" then .ok .or
  else .error (.unknownConjunction word)

/-- A blank text is the plain join. -/
def JoinType.ofText (s : String) : Except BuildFault JoinType :=
  let word := Text.lower (Text.trim s)
  if word == "inner" then .ok .inner
  else if word == "outer" then .ok .outer
  else if word == "left" then .ok .left
  else if word == "right" then .ok .right
  else if word == "full" then .ok .full
  else if word == "cross" then .ok .cross
  else if word == "natural" then .ok .natural
  else if word.isEmpty then .ok .plain
  else .error (.unknownJoinType word)

end SqlComposer
