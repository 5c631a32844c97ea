import GraphClient.Text.Name
/-
  The reserved words of the query dialect.

  Key definitions include:
    * `GraphClient.Keyword.words`
    * `GraphClient.Keyword.isReserved`

  A name that is a reserved word in any mixture of upper and
  lower case cannot be used for an attribute.
-/

------------------------------------------------------------
-- Reserved Words
------------------------------------------------------------

namespace GraphClient

namespace Keyword

/- The reserved words, in upper case. -/
def words : List String :=
  ["ACCUM", "ADD", "ALL", "ALLOCATE", "ALTER", "AND", "ANY",
    "AS", "ASC", "AVG", "BAG", "BATCH", "BETWEEN", "BIGINT",
    "BLOB", "BOOL", "BOOLEAN", "BOTH", "BREAK", "BY", "CALL",
    "CASCADE", "CASE", "CATCH", "CHAR", "CHARACTER", "CHECK",
    "CLOB", "COALESCE", "COMPRESS", "CONST", "CONSTRAINT",
    "CONTINUE", "COST", "COUNT", "CREATE", "CURRENT_DATE",
    "CURRENT_TIME", "CURRENT_TIMESTAMP", "CURSOR", "DATETIME",
    "DATETIME_ADD", "DATETIME_SUB", "DECIMAL", "DECLARE",
    "DEFAULT", "DELETE", "DESC", "DISTINCT", "DO", "DOUBLE",
    "DROP", "EDGE", "ELSE", "ELSEIF", "END", "ESCAPE",
    "EXCEPTION", "EXISTS", "FALSE", "FILE", "FILTER",
    "FIXED_BINARY", "FLOAT", "FOR", "FOREACH", "FROM",
    "GLOBAL", "GRANTS", "GRAPH", "GROUP", "GROUPBY", "HAVING",
    "HEADER", "IF", "IN", "INDEX", "INPUT_LINE_FILTER",
    "INSERT", "INT", "INT16", "INT32", "INT32_T", "INT64_T",
    "INT8", "INTEGER", "INTERPRET", "INTERSECT", "INTERVAL",
    "INTO", "IS", "ISEMPTY", "JOB", "JOIN", "JSONARRAY",
    "JSONOBJECT", "KAFKA", "KEY", "LEADING", "LIKE", "LIMIT",
    "LIST", "LOAD", "LOADACCUM", "LOG", "LONG", "MAP", "MINUS",
    "NOBODY", "NOT", "NOW", "NULL", "OFFSET", "ON",
    "OPENCYPHER", "OR", "ORDER", "PINNED", "POST_ACCUM",
    "POST-ACCUM", "PRIMARY", "PRIMARY_ID", "PRINT", "PROXY",
    "QUERY", "QUIT", "RAISE", "RANGE", "REDUCE", "REPLACE",
    "RESET_COLLECTION_ACCUM", "RETURN", "RETURNS", "RUN",
    "SAMPLE", "SELECT", "SELECTVERTEX", "SET", "STATIC",
    "STRING", "SUM", "TARGET", "TEMP_TABLE", "THEN", "TO",
    "TO_CSV", "TO_DATETIME", "TRAILING", "TRIM", "TRUE", "TRY",
    "TUPLE", "TYPE", "TYPEDEF", "UINT", "UINT16", "UINT32",
    "UINT32_T", "UINT64_T", "UINT8", "UINT8_T", "UNION",
    "UPDATE", "UPSERT", "USING", "VALUES", "VERTEX", "WHEN",
    "WHERE", "WHILE", "WITH"]

/- Whether a name is a reserved word in any letter case. -/
def isReserved
    (name : String) :
    Bool :=
  words.contains (Text.upper name)

end Keyword

end GraphClient
