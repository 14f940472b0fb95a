/-!
# Statements to draw from

The statements of synthesized inputs and of insertions are valid for an empty
database that has the schema. Integer literals are replaced by values at the edges
of the usual integer types.
-/

namespace Crosscheck.Mutation

/-- The statements that every synthesized input begins with. -/
def schema : List String := [
  "CREATE TABLE t0(a INTEGER PRIMARY KEY, b TEXT, c REAL)",
  "CREATE TABLE t1(x INTEGER, y TEXT UNIQUE, z BLOB)"]

/-- The statements that follow the schema or are inserted. -/
def pool : List String := [
  "INSERT INTO t0(b, c) VALUES ('a', 1.5)",
  "INSERT INTO t0(b, c) VALUES (NULL, -0.0)",
  "INSERT INTO t0 VALUES (9223372036854775807, 'max', 1e308)",
  "INSERT OR IGNORE INTO t1 VALUES (1, 'k', x'00ff')",
  "INSERT OR REPLACE INTO t1 VALUES (2, 'k', zeroblob(4))",
  "UPDATE t0 SET c = c * 2 WHERE a > 1",
  "UPDATE t1 SET y = upper(y) WHERE x IS NOT NULL",
  "DELETE FROM t0 WHERE b IS NULL",
  "DELETE FROM t1 WHERE x % 2 = 0",
  "SELECT * FROM t0",
  "SELECT count(*), sum(c), avg(a) FROM t0",
  "SELECT b, typeof(c) FROM t0 ORDER BY a DESC LIMIT 3",
  "SELECT t0.a, t1.y FROM t0 LEFT JOIN t1 ON t0.a = t1.x",
  "SELECT a, row_number() OVER (ORDER BY c) FROM t0",
  "SELECT DISTINCT length(b) FROM t0 WHERE b LIKE '%a%'",
  "SELECT group_concat(y, ',') FROM t1 GROUP BY x HAVING count(*) > 0",
  "WITH RECURSIVE c(n) AS (SELECT 1 UNION ALL SELECT n + 1 FROM c WHERE n < 10) SELECT sum(n) FROM c",
  "SELECT CAST('12abc' AS INTEGER), 7 / 2, 7 % -3, -9223372036854775808 / -1",
  "SELECT datetime('2000-01-01', '+1 month', 'start of year')",
  "SELECT printf('%.3f', 1.0 / 3), round(2.5), abs(-0.0)",
  "SELECT * FROM t0 WHERE a IN (SELECT x FROM t1)",
  "SELECT EXISTS (SELECT 1 FROM t1 WHERE z IS NULL)",
  "EXPLAIN QUERY PLAN SELECT * FROM t0 WHERE a = 1",
  "CREATE INDEX IF NOT EXISTS i0 ON t0(b, c)",
  "CREATE VIEW IF NOT EXISTS v0 AS SELECT a, b FROM t0 WHERE c > 0",
  "SELECT * FROM v0",
  "ANALYZE",
  "VACUUM"]

/-- The values that replace an integer literal. -/
def edgeIntegers : List String := [
  "0",
  "1",
  "-1",
  "127",
  "128",
  "255",
  "2147483647",
  "-2147483648",
  "4294967296",
  "9223372036854775807",
  "-9223372036854775808",
  "9223372036854775808"]

end Crosscheck.Mutation
