import GraphClient.Text.Join
/-
  The installed query that counts the edges of a node.

  Key definitions include:
    * `GraphClient.degreeScript`

  The query takes a node and a set of edge types, where an empty
  set stands for all of them, and prints the number of edges
  that leave the node.
-/

------------------------------------------------------------
-- Degree Query
------------------------------------------------------------

namespace GraphClient

/- The script that creates and installs the degree query. -/
def degreeScript
    (graphName query : String) :
    String :=
  Text.lines
    ["USE GRAPH " ++ graphName,
      "CREATE OR REPLACE QUERY " ++ query ++
        "(VERTEX input, SET<STRING> edge_types) \x7b",
      "  SumAccum<INT> @@sum_degree;",
      "  IF edge_types.size() == 0 THEN",
      "    @@sum_degree += input.outdegree();",
      "  ELSE",
      "    FOREACH edge_type IN edge_types DO",
      "      @@sum_degree += input.outdegree(edge_type);",
      "    END;",
      "  END;",
      "  PRINT @@sum_degree AS degree;",
      "\x7d",
      "INSTALL QUERY " ++ query]

end GraphClient
